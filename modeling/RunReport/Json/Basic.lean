import RunReport.Number.Binary64

/-!
# JSON Values

The values that JSON can write.

The members of an object keep the order of the text, and a name may occur more than once: whether
that is a fault depends on who reads the object. `Json.settled` makes an object a map from names to
values, as most readers want it. Numbers are kept exactly as far as 64 bits can hold them; a number
with a fraction or an exponent, and negative zero, are floating-point numbers.

## Main definitions

* `Json`, `Json.Number`: The values.
* `Json.get?`: The last member of a name.
* `Json.settled`: Objects without repeated names, in the order of the names.
-/

namespace RunReport

/-- A number as JSON writes it: an integer of 64 bits, by its size and sign, or a floating-point
    number. -/
inductive Json.Number
  | natural (n : Nat)
  | negative (n : Nat)
  | real (x : Binary64)
  deriving DecidableEq

/-- A JSON value. -/
inductive Json
  | null
  | bool (b : Bool)
  | number (n : Json.Number)
  | string (s : String)
  | array (items : List Json)
  | object (members : List (String × Json))

namespace Json

instance : Inhabited Json := ⟨null⟩

/-- The last member of an object that has a name. -/
def get? (name : String) : Json → Option Json
  | object members => (members.reverse.find? (·.1 = name)).map (·.2)
  | _ => none

/-- The integer that a number is. -/
def int? : Json → Option Int
  | number (.natural n) => some n
  | number (.negative n) => some (-(n : Int))
  | _ => none

/-- Puts a member into a map in order of names; it takes the place of one that has the name. -/
def putMember (name : String) (value : Json) : List (String × Json) → List (String × Json)
  | [] => [(name, value)]
  | (n, v) :: rest =>
    if name = n then (n, value) :: rest
    else if name < n then (name, value) :: (n, v) :: rest
    else (n, v) :: putMember name value rest

mutual

/-- A value with every object as a map in order of names: of equal names the last one counts. -/
def settled : Json → Json
  | array items => array (settledItems items)
  | object members => object (settledMembers [] members)
  | v => v

/-- The settled values of a list. -/
def settledItems : List Json → List Json
  | [] => []
  | v :: vs => settled v :: settledItems vs

/-- Puts the settled members of a list into a map, one after the other. -/
def settledMembers (done : List (String × Json)) : List (String × Json) → List (String × Json)
  | [] => done
  | (n, v) :: rest => settledMembers (putMember n (settled v) done) rest

end

end Json

end RunReport

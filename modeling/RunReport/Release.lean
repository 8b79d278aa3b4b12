import RunReport.Version

/-!
# Releases

A release and the builds that were made for it.

Builds that follow each other and come from the same changelist are shown as one group, headed by
its first build; a build of no changelist stands alone. The version that a changelist is known by
is what the versions of all its builds have in common.

## Main definitions

* `Build`, `Release`: The records.
* `ChangelistGroup`: Builds of one changelist that follow each other.
* `Release.changelistGroups`: The builds of a release in such groups.
* `Release.versionOf`: The version a changelist is known by.
-/

namespace RunReport

/-- A build. -/
structure Build where
  version : String
  changelist : Option String := none
  releaseId : String := ""
  deriving DecidableEq

/-- Whether a release is still built. -/
inductive ReleaseStatus
  | active
  | retired
  deriving DecidableEq

/-- A release and its builds. -/
structure Release where
  id : String
  name : String
  text : String := ""
  status : ReleaseStatus := .active
  version : String
  builds : List Build := []
  deriving DecidableEq

/-- Builds of one changelist that follow each other: the first one and the others. -/
structure ChangelistGroup where
  changelist : Option String
  head : Build
  others : List Build
  deriving DecidableEq

namespace ChangelistGroup

/-- All builds of a group. -/
def builds (g : ChangelistGroup) : List Build :=
  g.head :: g.others

/-- Groups with one more build in front: it joins the first group if both have the same
    changelist. -/
def push (b : Build) : List ChangelistGroup → List ChangelistGroup
  | [] => [⟨b.changelist, b, []⟩]
  | g :: gs =>
    if b.changelist.isSome ∧ b.changelist = g.changelist then ⟨g.changelist, b, g.builds⟩ :: gs
    else ⟨b.changelist, b, []⟩ :: g :: gs

/-- Builds in groups. -/
def ofBuilds (builds : List Build) : List ChangelistGroup :=
  builds.foldr push []

end ChangelistGroup

namespace Release

/-- Whether a release is no longer built. -/
def isRetired (r : Release) : Bool :=
  r.status == .retired

/-- The builds of a release in groups by changelist. -/
def changelistGroups (r : Release) : List ChangelistGroup :=
  ChangelistGroup.ofBuilds r.builds

/-- The version a changelist is known by: the short version of its first build, merged with the
    versions of the others. -/
def versionOf (r : Release) (changelist : String) (f : VersionFormat) : Option String :=
  match r.builds.filter (·.changelist = some changelist) with
  | [] => none
  | b :: bs => some (bs.foldl (fun v b => f.merged v b.version) (f.short b.version))

end Release

end RunReport

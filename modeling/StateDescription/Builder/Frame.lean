import StateDescription.Location

/-!
Open constructs of a source, and the names that wait for the construct that resolves them.

A group or block that belongs to a name keeps that name and the names that were waiting when
it was opened. A transition keeps nothing: its names wait with those of the construct around
it.
-/

namespace StateDescription

/-- A name that was read and not resolved yet. The reserved names are `@` and `.`. -/
structure PendingName where
  name : String
  location : Location
  reserved : Bool
  deriving DecidableEq

inductive Context
  | top
  | group
  | block
  | transition
  deriving DecidableEq

def Context.name : Context → String
  | top => "TOP"
  | group => "GROUP_BODY"
  | block => "BLOCK_BODY"
  | transition => "TRANSITION_BODY"

/-- The name that a group or block belongs to, and the names that wait around it, the newest
first. -/
structure Site where
  owner : PendingName
  around : List PendingName
  deriving DecidableEq

inductive Frame
  | group (site : Option Site)
  | block (site : Option Site)
  | transition
  deriving DecidableEq

namespace Frame

def context : Frame → Context
  | group _ => .group
  | block _ => .block
  | transition => .transition

def site? : Frame → Option Site
  | group site => site
  | block site => site
  | transition => none

def owner? (frame : Frame) : Option PendingName :=
  frame.site?.map Site.owner

/-- The names that a frame keeps, the newest first. -/
def names (frame : Frame) : List PendingName :=
  match frame.site? with
  | some site => site.owner :: site.around
  | none => []

def vacated : Frame → Frame
  | group _ => group none
  | block _ => block none
  | transition => transition

end Frame

end StateDescription

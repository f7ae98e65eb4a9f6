import ToolBootstrap.Text.Utf8

/- What a checkout keeps: the objects of its repository, the names that refer to them, and the head.

   An object is known by its place in the list of objects. A commit holds the files of its snapshot
   directly; trees are views of a snapshot and have no place of their own. -/

namespace ToolBootstrap

namespace Repository

/-- The place of an object in its repository. -/
abbrev ObjectId := Nat

/-- Files by their slash-separated names. -/
abbrev Snapshot := List (Bytes × Bytes)

inductive Object where
  | commit (files : Snapshot) (parents : List ObjectId) (message : String)
  | tag (target : ObjectId)
  | blob (data : Bytes)
  deriving DecidableEq, Repr

/-- What a reference holds: an object, or the name of another reference. -/
inductive Reference where
  | direct (id : ObjectId)
  | symbolic (name : String)
  deriving DecidableEq, Repr

end Repository

/-- A repository: objects in the order in which they were added, references by their full names,
and what the head refers to. -/
structure Repository where
  objects : List Repository.Object
  references : List (String × Repository.Reference)
  head : Repository.Reference
  deriving DecidableEq, Repr

end ToolBootstrap

import Inquiry.Error
import Inquiry.Host.Outline

/-!
# Schemas

A schema declares records: the table that a record is read from, and for each of its members the type
and the field in which it is stored. Records and members are known by their places, which are given
out in the order of declaration.

Compilation does not ask for a schema. It asks what a number stands for, and a `Mapping` answers; a
schema is one way to have the answers.
-/

namespace Inquiry

open Host (Ty MemberId)

/-- A member of a record. -/
structure Member where
  id : MemberId
  name : String
  type : Ty
  /-- The field in which the member is stored, if it is stored. -/
  field : Option String

/-- A record. -/
structure Record where
  id : Nat
  name : String
  table : String
  members : List Member

namespace Record

/-- The member with the given number, if it is one of this record. -/
def member? (r : Record) (id : MemberId) : Option Member :=
  if id.record = r.id then r.members[id.index]? else none

/-- The first member with the given name. -/
def memberNamed? (r : Record) (name : String) : Option Member :=
  r.members.find? (·.name == name)

/-- Declares a further member. -/
def addMember (r : Record) (name : String) (type : Ty) (field : Option String) : Record :=
  { r with members := r.members ++ [⟨⟨r.id, r.members.length⟩, name, type, field⟩] }

end Record

/-- What compilation asks about records: the record with a number, and the table that it is read from.
Nothing ties the answers to each other. Numbers may be left out, a record may go by a number that is not
its own, and the table need not be the one that the record names. -/
structure Mapping where
  record? : Nat → Option Record
  table? : Nat → Option String

/-- The mapping without records. -/
def Mapping.empty : Mapping := ⟨fun _ => none, fun _ => none⟩

/-- The declared records, in order. -/
structure Schema where
  records : List Record

namespace Schema

/-- The schema without records. -/
def empty : Schema := ⟨[]⟩

/-- Declares a further record with its members. -/
def addRecord (s : Schema) (name table : String) (members : List (String × Ty × Option String)) :
    Schema :=
  let fresh : Record := ⟨s.records.length, name, table, []⟩
  ⟨s.records ++ [members.foldl (fun r m => r.addMember m.1 m.2.1 m.2.2) fresh]⟩

/-- The record with the given number. -/
def record? (s : Schema) (id : Nat) : Option Record := s.records[id]?

/-- The first record with the given name. -/
def recordNamed? (s : Schema) (name : String) : Option Record :=
  s.records.find? (·.name == name)

/-- The table of the record with the given number. -/
def table? (s : Schema) (id : Nat) : Option String := (s.record? id).map (·.table)

/-- The mapping to the declared records and their own tables. -/
def mapping (s : Schema) : Mapping := ⟨s.record?, s.table?⟩

/-- Whether the type is a declared record. -/
def isRecordType (s : Schema) : Ty → Bool
  | .record id => (s.record? id).isSome
  | _ => false

/-- The first member of the given name of a record that must be there. -/
def member (s : Schema) (record : Nat) (name : String) : Except Misuse (Option Member) :=
  match s.record? record with
  | some r => .ok (r.memberNamed? name)
  | none => .error (.recordIndex s.records.length record)

end Schema

end Inquiry

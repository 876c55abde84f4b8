import Inquiry.Value.Basic

/-!
# Digests of values

A hash function is fed words, one after the other. The digest of a value is what it feeds: which kind
of value it is, and then what it holds. Lists and records say first how long they are, so that one
list cannot be taken for two.

How decimals and times feed a hash function is not decided here but by a `Digester`. The usual one
feeds the parts of the normal form of a decimal, as two decimals for one number have to feed alike.
-/

namespace Inquiry

open Number (twoTo)

namespace Digest

/-- A word that a hash function is fed. -/
inductive Word where
  /-- Which form something has, of those that are possible. -/
  | form (index : Nat)
  | length (n : Nat)
  /-- A number of so many bits. -/
  | number (bits : Nat) (n : Int)
  | text (s : String)
  deriving DecidableEq

/-- The word for a truth value. -/
def flag (b : Bool) : Word := .number 8 b.toNat

/-- The word for a character. -/
def char (c : Char) : Word := .number 32 c.toNat

/-- The digest of something that may be missing. -/
def option {α : Type} (digest : α → List Word) : Option α → List Word
  | none => [.form 0]
  | some a => .form 1 :: digest a

/-- The word for one of the things that a list holds. -/
def member {α : Type} [BEq α] (all : List α) (a : α) : Word := .form (all.idxOf a)

end Digest

open Digest (Word)

/-- How decimals and times feed a hash function. -/
structure Digester where
  decimal : Decimal → List Word
  dateTime : DateTime → List Word

namespace Digester

/-- The three words of a coefficient, from the lowest, and a word for scale and sign. -/
def decimalWords (d : Decimal) : List Word :=
  [.number 32 (d.coefficient % twoTo 32), .number 32 (d.coefficient / twoTo 32 % twoTo 32),
    .number 32 (d.coefficient / twoTo 64),
    .number 32 (d.scale * twoTo 16 + d.negative.toNat * twoTo 31)]

/-- The usual digester. -/
def standard : Digester := ⟨fun d => decimalWords d.normalize, fun t => t.parts.map (.number 32)⟩

end Digester

namespace Value

mutual

/-- What a value feeds a hash function. -/
def digest (d : Digester) : Value → List Word
  | bool b => [.form 0, Digest.flag b]
  | char c => [.form 1, Digest.char c]
  | dateTime t => .form 2 :: d.dateTime t
  | decimal x => .form 3 :: d.decimal x
  | single x => [.form 4, .number 32 x.bits.toNat]
  | double x => [.form 5, .number 64 x.bits.toNat]
  | int16 n => [.form 6, .number 16 n.toInt]
  | int32 n => [.form 7, .number 32 n.toInt]
  | int64 n => [.form 8, .number 64 n.toInt]
  | list items => .form 9 :: .length items.length :: digestItems d items
  | null => [.form 10]
  | record fields => .form 11 :: .length fields.length :: digestFields d fields
  | string s => [.form 12, .text s]
  | uint8 n => [.form 13, .number 8 n.toNat]

def digestItems (d : Digester) : List Value → List Word
  | [] => []
  | v :: rest => digest d v ++ digestItems d rest

def digestFields (d : Digester) : Fields → List Word
  | [] => []
  | (name, v) :: rest => .text name :: (digest d v ++ digestFields d rest)

end

end Value

end Inquiry

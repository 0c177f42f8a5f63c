import Reshape.EncodingSpec

/-!
# Texts that share their bytes

A copy of a text holds the same buffer of bytes as the text it was copied from.
A buffer never changes: new bytes for one holder go to a buffer of their own,
and the other holders keep the old one.  Each buffer counts its holders.
-/

namespace Reshape

structure Buffer where
  bytes : List UInt8
  /-- How many holders the buffer has. -/
  count : Nat
  deriving DecidableEq

structure Holder where
  /-- The place of the buffer among all buffers. -/
  buffer : Nat
  charset : Charset
  deriving DecidableEq

/-- All buffers ever made, and the holders by number; a dropped holder leaves
its place empty. -/
structure Shelf where
  buffers : List Buffer
  holders : List (Option Holder)
  deriving DecidableEq

namespace Shelf

def empty : Shelf := ⟨[], []⟩

def holder? (shelf : Shelf) (i : Nat) : Option Holder :=
  (shelf.holders[i]?).join

def text? (shelf : Shelf) (i : Nat) : Option Text := do
  let holder <- shelf.holder? i
  let buffer <- shelf.buffers[holder.buffer]?
  return ⟨buffer.bytes, holder.charset⟩

def isShared (shelf : Shelf) (i : Nat) : Bool :=
  match shelf.holder? i with
  | none => false
  | some holder =>
      match shelf.buffers[holder.buffer]? with
      | none => false
      | some buffer => 1 < buffer.count

def sharesBuffer (shelf : Shelf) (i j : Nat) : Bool :=
  match shelf.holder? i, shelf.holder? j with
  | some a, some b => a.buffer == b.buffer
  | _, _ => false

/-!
## Operations
-/

def retain (shelf : Shelf) (buffer : Nat) : Shelf :=
  { shelf with
    buffers := shelf.buffers.modify buffer
      fun b => { b with count := b.count + 1 } }

def release (shelf : Shelf) (buffer : Nat) : Shelf :=
  { shelf with
    buffers := shelf.buffers.modify buffer
      fun b => { b with count := b.count - 1 } }

def addHolder (shelf : Shelf) (holder : Option Holder) : Shelf :=
  { shelf with holders := shelf.holders ++ [holder] }

def addBuffer (shelf : Shelf) (bytes : List UInt8) : Shelf :=
  { shelf with buffers := shelf.buffers ++ [⟨bytes, 1⟩] }

def setHolder (shelf : Shelf) (i : Nat) (holder : Option Holder) : Shelf :=
  { shelf with holders := shelf.holders.set i holder }

def create (shelf : Shelf) (text : Text) : Shelf :=
  (shelf.addBuffer text.bytes).addHolder
    (some ⟨shelf.buffers.length, text.charset⟩)

/-- A new holder of the buffer that holder `i` has. -/
def clone (shelf : Shelf) (i : Nat) : Shelf :=
  match shelf.holder? i with
  | none => shelf.addHolder none
  | some holder => (shelf.retain holder.buffer).addHolder (some holder)

def drop (shelf : Shelf) (i : Nat) : Shelf :=
  match shelf.holder? i with
  | none => shelf
  | some holder => (shelf.release holder.buffer).setHolder i none

def setCharset (shelf : Shelf) (i : Nat) (charset : Charset) : Shelf :=
  match shelf.holder? i with
  | none => shelf
  | some holder => shelf.setHolder i (some { holder with charset })

def replace (shelf : Shelf) (i : Nat) (bytes : List UInt8) (charset : Charset) :
    Shelf :=
  match shelf.holder? i with
  | none => shelf
  | some holder =>
      ((shelf.release holder.buffer).addBuffer bytes).setHolder i
        (some ⟨shelf.buffers.length, charset⟩)

def normalize (shelf : Shelf) (i : Nat) (spec : EncodingSpec) : Shelf :=
  match shelf.text? i with
  | none => shelf
  | some text =>
      match spec.change text with
      | .keep => shelf
      | .declare charset => shelf.setCharset i charset
      | .replace bytes charset => shelf.replace i bytes charset

inductive Operation where
  | create (text : Text)
  | clone (i : Nat)
  | drop (i : Nat)
  | setCharset (i : Nat) (charset : Charset)
  | replace (i : Nat) (bytes : List UInt8) (charset : Charset)
  | normalize (i : Nat) (spec : EncodingSpec)

def apply (shelf : Shelf) : Operation -> Shelf
  | .create text => shelf.create text
  | .clone i => shelf.clone i
  | .drop i => shelf.drop i
  | .setCharset i charset => shelf.setCharset i charset
  | .replace i bytes charset => shelf.replace i bytes charset
  | .normalize i spec => shelf.normalize i spec

end Shelf

end Reshape

import Mathlib.Data.List.TakeWhile
import Mathlib.Data.String.Basic

/-!
# Text codecs

A `Codec` writes values as text that can be read back from the front of a longer
text. Codecs of pairs, options and images are built from those of their parts.
-/
namespace MessagingSystem.Foundation

structure Codec (α : Type) where
  write : α → List Char
  read : List Char → Option (α × List Char)
  read_write : ∀ a rest, read (write a ++ rest) = some (a, rest)

namespace Codec

variable {α β : Type}

/-- A number in unary, with an end mark. -/
def number : Codec Nat where
  write n := List.replicate n '1' ++ ['.']
  read text := some ((text.takeWhile fun c => c = '1').length,
    (text.dropWhile fun c => c = '1').drop 1)
  read_write n rest := by
    have run : List.takeWhile (fun c => decide (c = '1')) (List.replicate n '1' ++ ['.'] ++ rest) =
        List.replicate n '1' := by
      rw [List.append_assoc, List.takeWhile_append_of_pos (by simp)]
      simp
    have after : List.dropWhile (fun c => decide (c = '1')) (List.replicate n '1' ++ ['.'] ++ rest) =
        '.' :: rest := by
      rw [List.append_assoc, List.dropWhile_append_of_pos (by simp)]
      simp
    rw [run, after]
    simp

/-- A string, after its length. -/
def text : Codec String where
  write s := number.write s.toList.length ++ s.toList
  read input := (number.read input).map fun head =>
    (String.ofList (head.2.take head.1), head.2.drop head.1)
  read_write s rest := by
    rw [List.append_assoc, number.read_write]
    simp

def pair (first : Codec α) (second : Codec β) : Codec (α × β) where
  write p := first.write p.1 ++ second.write p.2
  read input := (first.read input).bind fun a => (second.read a.2).map fun b => ((a.1, b.1), b.2)
  read_write p rest := by
    rw [List.append_assoc, first.read_write, Option.bind_some, second.read_write]
    rfl

/-- Values that are images of coded ones. -/
def image (codec : Codec α) (into : α → β) (back : β → α) (left : ∀ b, into (back b) = b) :
    Codec β where
  write b := codec.write (back b)
  read input := (codec.read input).map fun a => (into a.1, a.2)
  read_write b rest := by
    rw [codec.read_write, Option.map_some, left]

def optional (codec : Codec α) : Codec (Option α) where
  write
    | none => ['0']
    | some a => '1' :: codec.write a
  read
    | '1' :: input => (codec.read input).map fun a => (some a.1, a.2)
    | _ :: input => some (none, input)
    | [] => none
  read_write value rest := by
    cases value with
    | none => rfl
    | some a =>
      show (codec.read (codec.write a ++ rest)).map _ = _
      rw [codec.read_write]
      rfl

end Codec

end MessagingSystem.Foundation

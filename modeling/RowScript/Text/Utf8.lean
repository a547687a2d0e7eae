/-!
# Bytes as characters

A file is bytes. `glyphs` takes them apart into characters; a byte that is part of no character
stays as a hole, so that a reader can still pass over a text it has no use for.
-/

namespace RowScript

/-- A character, or a byte that is part of none. -/
abbrev Glyph := Option Char

/-- How many bytes it takes. -/
def Glyph.size : Glyph → Nat
  | some c => c.utf8Size
  | none => 1

/-- The characters from a place on. -/
def glyphsFrom (b : ByteArray) (i : Nat) : List Glyph :=
  if i < b.size then
    match b.utf8DecodeChar? i with
    | some c => some c :: glyphsFrom b (i + c.utf8Size)
    | none => none :: glyphsFrom b (i + 1)
  else []
termination_by b.size - i
decreasing_by
  · have := c.utf8Size_pos; omega
  · omega

def glyphs (b : ByteArray) : List Glyph := glyphsFrom b 0

/-- The characters behind bytes at the beginning. -/
theorem glyphsFrom_append (p : ByteArray) (cs : List Char) :
    glyphsFrom (p ++ cs.utf8Encode) p.size = cs.map some := by
  induction cs generalizing p with
  | nil => simp [glyphsFrom]
  | cons c rest ih =>
    have hhead : [c].utf8Encode.size = c.utf8Size := by
      rw [List.utf8Encode_singleton, List.size_toByteArray, String.length_utf8EncodeChar]
    have hdecode : (p ++ (c :: rest).utf8Encode).utf8DecodeChar? p.size = some c := by
      rw [ByteArray.utf8DecodeChar?_eq_utf8DecodeChar?_extract,
        ByteArray.extract_append_eq_right rfl ByteArray.size_append]
      exact List.utf8DecodeChar?_utf8Encode_cons
    have hnext := ih (p ++ [c].utf8Encode)
    rw [ByteArray.append_assoc, ← List.utf8Encode_cons, ByteArray.size_append, hhead] at hnext
    rw [glyphsFrom, if_pos (ByteArray.lt_size_of_isSome_utf8DecodeChar? (by rw [hdecode]; rfl)),
      hdecode]
    exact congrArg (some c :: ·) hnext

/-- The characters of a text. -/
def textGlyphs (s : String) : List Glyph := s.toList.map some

@[simp] theorem textGlyphs_append (s t : String) :
    textGlyphs (s ++ t) = textGlyphs s ++ textGlyphs t := by
  simp [textGlyphs]

/-- The bytes of a text are taken apart into its characters. -/
theorem glyphs_toUTF8 (s : String) : glyphs s.toUTF8 = textGlyphs s := by
  have h := glyphsFrom_append .empty s.toList
  rwa [String.utf8Encode_toList, ByteArray.empty_append] at h

/-- The characters, if every byte is part of one. -/
def wholeText? : List Glyph → Option (List Char)
  | [] => some []
  | some c :: rest => (wholeText? rest).map (c :: ·)
  | none :: _ => none

theorem wholeText?_map_some (cs : List Char) : wholeText? (cs.map some) = some cs := by
  induction cs with
  | nil => rfl
  | cons c rest ih => simp [wholeText?, ih]

/-- The count of bytes before the first hole. -/
def bytesBeforeHole : List Glyph → Nat
  | [] | none :: _ => 0
  | some c :: rest => c.utf8Size + bytesBeforeHole rest

end RowScript

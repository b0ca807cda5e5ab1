import HostEngine.Text.Octets
/-!
# Texts as octets

The octets of a text decode to that text and to no other (`Octets.text?_eq_some_iff`). An ASCII
octet occurs in them just where its character occurs in the text.
-/
set_option autoImplicit false

namespace HostEngine.Octets

variable {octets rest : Octets} {c : Char}

theorem ofString_ofList (cs : List Char) :
    ofString (String.ofList cs) = cs.flatMap String.utf8EncodeChar := by
  unfold ofString
  rw [String.toList_ofList]

/-! ### Decoding one character -/

theorem firstChar?_encode_append (c : Char) (rest : Octets) :
    firstChar? (String.utf8EncodeChar c ++ rest) = some c := by
  have fits : (String.utf8EncodeChar c).length ≤ 4 := by
    rw [String.length_utf8EncodeChar]
    exact c.utf8Size_le_four
  unfold firstChar?
  rw [List.take_append, List.take_of_length_le fits, List.toByteArray_append]
  exact ByteArray.utf8DecodeChar?_utf8EncodeChar_append

theorem exists_append_of_firstChar? (decoded : firstChar? octets = some c) :
    ∃ rest, octets = String.utf8EncodeChar c ++ rest := by
  obtain ⟨bytes, split⟩ := ByteArray.exists_of_utf8DecodeChar?_eq_some decoded
  have first : octets.take 4 = String.utf8EncodeChar c ++ bytes.data.toList := by
    have same := congrArg (fun array => array.data.toList) split
    simpa only [ByteArray.toList_data_append, List.data_toByteArray] using same
  refine ⟨bytes.data.toList ++ octets.drop 4, ?_⟩
  rw [← List.append_assoc, ← first, List.take_append_drop]

/-! ### Pieces -/

theorem piecesAfter_append (skipped rest : Octets) :
    piecesAfter skipped.length (skipped ++ rest) = piecesAfter 0 rest := by
  induction skipped with
  | nil => rfl
  | cons octet skipped ih => exact ih

theorem pieces_encode_append (c : Char) (rest : Octets) :
    pieces (String.utf8EncodeChar c ++ rest) = .char c :: pieces rest := by
  have decoded := firstChar?_encode_append c rest
  have size := String.length_utf8EncodeChar c
  cases encoded : String.utf8EncodeChar c with
  | nil => exact absurd encoded String.utf8EncodeChar_ne_nil
  | cons octet later =>
    rw [encoded] at decoded size
    have later_length : c.utf8Size - 1 = later.length := by
      rw [← size, List.length_cons, Nat.add_sub_cancel]
    rw [List.cons_append] at decoded ⊢
    unfold pieces
    rw [piecesAfter, decoded]
    simp only
    rw [later_length, piecesAfter_append]

theorem pieces_ofString (text : String) : (ofString text).pieces = text.toList.map .char := by
  unfold ofString
  induction text.toList with
  | nil => rfl
  | cons c cs ih => rw [List.flatMap_cons, pieces_encode_append, ih, List.map_cons]

theorem charsOf?_map_char (cs : List Char) : charsOf? (cs.map .char) = some cs := by
  induction cs with
  | nil => rfl
  | cons c cs ih => rw [List.map_cons, charsOf?, ih, Option.map_some]

/-! ### Whole texts -/

@[simp] theorem text?_ofString (text : String) : (ofString text).text? = some text := by
  rw [text?, pieces_ofString, charsOf?_map_char, Option.map_some, String.ofList_toList]

@[simp] theorem shown_ofString (text : String) : (ofString text).shown = text := by
  have same : ∀ cs : List Char, (cs.map Piece.char).map Piece.shown = cs := by
    intro cs
    rw [List.map_map]
    exact List.map_id cs
  rw [shown, pieces_ofString, same, String.ofList_toList]

/-- Only the octets of the characters decode to nothing but these. -/
theorem eq_encode_of_charsOf? {cs : List Char} (decoded : charsOf? octets.pieces = some cs) :
    octets = cs.flatMap String.utf8EncodeChar := by
  induction length : octets.length using Nat.strongRecOn generalizing octets cs with
  | ind n ih =>
    cases octets with
    | nil =>
      cases decoded
      rfl
    | cons octet later =>
      cases first : firstChar? (octet :: later) with
      | none =>
        unfold pieces at decoded
        rw [piecesAfter, first] at decoded
        cases decoded
      | some c =>
        obtain ⟨rest, split⟩ := exists_append_of_firstChar? first
        rw [split, pieces_encode_append, charsOf?] at decoded
        obtain ⟨cs, decodedRest, rfl⟩ := Option.map_eq_some_iff.mp decoded
        have shorter : rest.length < n := by
          have size := congrArg List.length split
          have positive := c.utf8Size_pos
          rw [List.length_append, String.length_utf8EncodeChar] at size
          omega
        rw [split, List.flatMap_cons, ← ih rest.length shorter decodedRest rfl]

theorem text?_eq_some_iff {text : String} : octets.text? = some text ↔ octets = ofString text := by
  constructor
  · intro decoded
    obtain ⟨cs, chars, rfl⟩ := Option.map_eq_some_iff.mp decoded
    rw [ofString_ofList]
    exact eq_encode_of_charsOf? chars
  · rintro rfl
    exact text?_ofString text

/-! ### ASCII octets -/

/-- An octet below 128 stands for the ASCII character with its number, and occurs nowhere else. -/
theorem mem_encode_iff {octet : UInt8} (ascii : octet < 128) :
    octet ∈ String.utf8EncodeChar c ↔ c.toNat = octet.toNat := by
  have below : octet.toNat < 128 := ascii
  have beyond (low : UInt8) {high : UInt8} (set : 128 ≤ high) : octet ≠ low ||| high := by
    rintro rfl
    have least : high.toNat ≤ (low ||| high).toNat := by
      rw [UInt8.toNat_or]
      exact Nat.right_le_or
    have floor : 128 ≤ high.toNat := set
    omega
  have wide (size : 127 < c.val) : c.toNat ≠ octet.toNat := by
    have above : 127 < c.toNat := size
    omega
  rcases c.utf8Size_eq with size | size | size | size
  · have small : c.toNat ≤ 127 := UInt32.le_iff_toNat_le.mp (Char.utf8Size_eq_one_iff.mp size)
    have value : c.val.toUInt8.toNat = c.toNat := by
      rw [UInt32.toNat_toUInt8]
      exact Nat.mod_eq_of_lt (Nat.lt_of_le_of_lt small (by decide))
    rw [String.utf8EncodeChar_eq_singleton size, List.mem_singleton, ← UInt8.toNat_inj, value,
      eq_comm]
  · have large : 127 < c.val := (Char.utf8Size_eq_two_iff.mp size).1
    rw [String.utf8EncodeChar_eq_cons_cons size]
    simp [beyond, wide large]
  · have large : 127 < c.val :=
      UInt32.lt_trans (show (127 : UInt32) < 2047 by decide) (Char.utf8Size_eq_three_iff.mp size).1
    rw [String.utf8EncodeChar_eq_cons_cons_cons size]
    simp [beyond, wide large]
  · have large : 127 < c.val :=
      UInt32.lt_trans (show (127 : UInt32) < 65535 by decide) (Char.utf8Size_eq_four_iff.mp size)
    rw [String.utf8EncodeChar_eq_cons_cons_cons_cons size]
    simp [beyond, wide large]

theorem mem_ofString_iff {octet : UInt8} (ascii : octet < 128) (sign : Char)
    (same : sign.toNat = octet.toNat) (text : String) :
    octet ∈ ofString text ↔ sign ∈ text.toList := by
  have only (c : Char) : octet ∈ String.utf8EncodeChar c ↔ c = sign := by
    rw [mem_encode_iff ascii, ← same]
    exact Char.toNat_inj
  unfold ofString
  simp [List.mem_flatMap, only]

theorem length_le_ofString (cs : List Char) : cs.length ≤ (ofString (String.ofList cs)).length := by
  rw [ofString_ofList]
  induction cs with
  | nil => exact Nat.le_refl 0
  | cons c rest ih =>
    have positive := c.utf8Size_pos
    rw [List.flatMap_cons, List.length_append, String.length_utf8EncodeChar, List.length_cons]
    omega

theorem hasNul_ofString_iff {text : String} :
    (ofString text).hasNul = true ↔ '\x00' ∈ text.toList := by
  rw [hasNul, List.contains_iff_mem]
  exact mem_ofString_iff (by decide) '\x00' rfl text

end HostEngine.Octets

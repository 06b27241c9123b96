import Grader.Text.Utf8
import Mathlib

/-! Text of ASCII. Its bytes are the numbers of its characters, and decoding gives it back. -/

namespace Grader.Text

def IsAscii (cs : List Char) : Prop := ∀ c ∈ cs, c.toNat < 0x80

namespace IsAscii

variable {c : Char} {cs ds : List Char}

@[simp]
theorem nil : IsAscii [] := fun _ h => absurd h List.not_mem_nil

@[simp]
theorem cons_iff : IsAscii (c :: cs) ↔ c.toNat < 0x80 ∧ IsAscii cs := List.forall_mem_cons

@[simp]
theorem append_iff : IsAscii (cs ++ ds) ↔ IsAscii cs ∧ IsAscii ds := List.forall_mem_append

@[simp]
theorem reverse_iff : IsAscii cs.reverse ↔ IsAscii cs := by
  unfold IsAscii
  simp only [List.mem_reverse]

theorem replicate (n : Nat) (h : c.toNat < 0x80) : IsAscii (List.replicate n c) := by
  intro d hd
  rw [List.eq_of_mem_replicate hd]
  exact h

theorem of_subset (h : IsAscii ds) (hs : cs ⊆ ds) : IsAscii cs := fun c hc => h c (hs hc)

theorem take (h : IsAscii cs) (n : Nat) : IsAscii (cs.take n) := h.of_subset (List.take_subset n cs)

theorem drop (h : IsAscii cs) (n : Nat) : IsAscii (cs.drop n) := h.of_subset (List.drop_subset n cs)

end IsAscii

namespace Utf8

variable {cs : List Char}

/-- What the loop over an array of bytes has still to give, by the number of bytes that are left. -/
theorem toList_loop (bytes : ByteArray) (left : Nat) (acc : List UInt8) (hleft : left ≤ bytes.size) :
    ByteArray.toList.loop bytes (bytes.size - left) acc =
      acc.reverse ++ bytes.data.toList.drop (bytes.size - left) := by
  -- The loop counts up, so the induction is on what is left.
  induction left generalizing acc with
  | zero =>
    rw [Nat.sub_zero, ByteArray.toList.loop, if_neg (Nat.lt_irrefl _),
      List.drop_eq_nil_of_le (by simp), List.append_nil]
  | succ left ih =>
    have hi : bytes.size - (left + 1) < bytes.size := by omega
    have hnext : bytes.size - (left + 1) + 1 = bytes.size - left := by omega
    rw [ByteArray.toList.loop, if_pos hi, hnext, ih _ (Nat.le_of_succ_le hleft),
      List.drop_eq_getElem_cons hi, hnext, List.reverse_cons, List.append_assoc]
    simp [ByteArray.get!, hi]

theorem encode_ofList (cs : List Char) :
    encode (String.ofList cs) = cs.flatMap String.utf8EncodeChar := by
  have hall := toList_loop (cs.flatMap String.utf8EncodeChar).toByteArray _ [] le_rfl
  rw [Nat.sub_self, List.toList_data_toByteArray] at hall
  exact hall

/-- A character of ASCII is one byte. -/
theorem encode_of_ascii (h : IsAscii cs) :
    encode (String.ofList cs) = cs.map Char.toUInt8 := by
  rw [encode_ofList]
  -- The loop over the bytes is gone, and what is left is a list by characters.
  induction cs with
  | nil => rfl
  | cons c cs ih =>
    obtain ⟨hc, hcs⟩ := IsAscii.cons_iff.mp h
    have hsize : c.utf8Size = 1 := by
      rw [Char.utf8Size_eq_one_iff, UInt32.le_iff_toNat_le]
      exact Nat.le_of_lt_succ hc
    rw [List.flatMap_cons, String.utf8EncodeChar_eq_singleton hsize, List.map_cons, ih hcs]
    rfl

theorem decodeFrom_ascii (h : IsAscii cs) {fuel : Nat} (hfuel : cs.length ≤ fuel) (pos : Nat)
    (acc : List Char) :
    decodeFrom fuel pos acc (cs.map Char.toUInt8) = .ok (acc.reverse ++ cs) := by
  induction cs generalizing fuel pos acc with
  | nil => cases fuel <;> simp [decodeFrom]
  | cons c cs ih =>
    obtain ⟨hc, hcs⟩ := IsAscii.cons_iff.mp h
    obtain ⟨fuel, rfl⟩ := Nat.exists_eq_add_one_of_ne_zero (Nat.ne_zero_of_lt hfuel)
    -- The byte is below 0x80, where one byte is decoded at a time.
    have hbyte : c.toUInt8.toNat = c.toNat := by
      change c.toNat % 256 = c.toNat
      omega
    rw [List.map_cons, decodeFrom, hbyte]
    simp only [hc, ↓reduceIte, Char.ofNat_toNat]
    rw [ih hcs (Nat.le_of_succ_le_succ hfuel)]
    simp

theorem decode_ascii (h : IsAscii cs) : decode (cs.map Char.toUInt8) = .ok cs :=
  decodeFrom_ascii h (List.length_map _).ge 0 []

end Utf8

end Grader.Text

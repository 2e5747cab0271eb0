import PhotoGrouping.Text.Utf8
import Mathlib.Data.List.Basic

namespace PhotoGrouping.Text.Utf8

theorem le_ofNat_iff {a n : Nat} (ha : a < 256) (hn : n < 256) :
    UInt8.ofNat a ≤ UInt8.ofNat n ↔ a ≤ n := by
  rw [UInt8.le_iff_toNat_le, UInt8.toNat_ofNat_of_lt' ha, UInt8.toNat_ofNat_of_lt' hn]

theorem isContinuation_ofNat (n : Nat) : isContinuation (UInt8.ofNat (n % 64 + 128)) = true := by
  have h := Nat.mod_lt n (show 0 < 64 by omega)
  unfold isContinuation
  rw [Bool.and_eq_true, decide_eq_true_eq, decide_eq_true_eq]
  refine ⟨(le_ofNat_iff (a := 128) (by omega) (by omega)).mpr ?_,
    (le_ofNat_iff (n := 191) (by omega) (by omega)).mpr ?_⟩ <;> omega

theorem extend_ofNat (m n : Nat) : extend m (UInt8.ofNat (n % 64 + 128)) = m * 64 + n % 64 := by
  have h := Nat.mod_lt n (show 0 < 64 by omega)
  unfold extend
  rw [UInt8.toNat_ofNat_of_lt' (by show _ < 256; omega)]
  omega

theorem toNat_lead {n : Nat} (h : n < 256) : (UInt8.ofNat n).toNat = n :=
  UInt8.toNat_ofNat_of_lt' h

/-- The second byte of a character is one that its leading byte admits. -/
theorem isSecond_ofNat {lead n : Nat} (hlead : lead < 256)
    (hE0 : lead = 0xE0 → 32 ≤ n % 64) (hED : lead = 0xED → n % 64 < 32)
    (hF0 : lead = 0xF0 → 16 ≤ n % 64) (hF4 : lead = 0xF4 → n % 64 < 16) :
    isSecond (UInt8.ofNat lead) (UInt8.ofNat (n % 64 + 128)) = true := by
  have h := Nat.mod_lt n (show 0 < 64 by omega)
  have hcont := isContinuation_ofNat n
  have hbyte : (UInt8.ofNat (n % 64 + 128)).toNat = n % 64 + 128 := toNat_lead (by omega)
  unfold isSecond
  rw [isContinuation] at *
  simp only [← UInt8.toNat_inj, UInt8.le_iff_toNat_le, hbyte, toNat_lead hlead, UInt8.reduceToNat,
    Bool.and_eq_true, decide_eq_true_eq] at hcont ⊢
  split_ifs <;> simp only [Bool.and_eq_true, decide_eq_true_eq] <;> omega

variable (c : Char) (rest : List UInt8)

theorem firstPiece_one {n : Nat} (h : n < 0x80) :
    firstPiece (UInt8.ofNat n) rest = ⟨some (Char.ofNat n), 0⟩ := by
  have hn : (UInt8.ofNat n).toNat = n := toNat_lead (by omega)
  simp only [firstPiece, UInt8.lt_iff_toNat_lt, hn, UInt8.reduceToNat, h, if_true]

theorem firstPiece_two {n m : Nat} (h : 2 ≤ n) (h' : n < 32) :
    firstPiece (UInt8.ofNat (n + 0xC0)) (UInt8.ofNat (m % 64 + 128) :: rest) =
      ⟨some (Char.ofNat (n * 64 + m % 64)), 1⟩ := by
  have hn : (UInt8.ofNat (n + 0xC0)).toNat = n + 0xC0 := toNat_lead (by omega)
  unfold firstPiece
  simp only [isContinuation_ofNat, extend_ofNat, UInt8.lt_iff_toNat_lt, UInt8.le_iff_toNat_le, hn,
    UInt8.reduceToNat, Bool.and_eq_true, decide_eq_true_eq, if_true]
  rw [if_neg (by omega), if_pos (by omega), Nat.add_sub_cancel]

theorem firstPiece_three {n m k : Nat} (h : n < 16) (h0 : n = 0 → 32 ≤ m % 64)
    (hD : n = 0xD → m % 64 < 32) :
    firstPiece (UInt8.ofNat (n + 0xE0))
        (UInt8.ofNat (m % 64 + 128) :: UInt8.ofNat (k % 64 + 128) :: rest) =
      ⟨some (Char.ofNat ((n * 64 + m % 64) * 64 + k % 64)), 2⟩ := by
  have hn : (UInt8.ofNat (n + 0xE0)).toNat = n + 0xE0 := toNat_lead (by omega)
  have hsecond : isSecond (UInt8.ofNat (n + 0xE0)) (UInt8.ofNat (m % 64 + 128)) = true :=
    isSecond_ofNat (by omega) (by omega) (by omega) (by omega) (by omega)
  unfold firstPiece
  simp only [isContinuation_ofNat, hsecond, extend_ofNat, UInt8.lt_iff_toNat_lt,
    UInt8.le_iff_toNat_le, hn, UInt8.reduceToNat, Bool.and_eq_true, decide_eq_true_eq, if_true]
  rw [if_neg (by omega), if_neg (by omega), if_pos (by omega), Nat.add_sub_cancel]

theorem firstPiece_four {n m k l : Nat} (h : n < 5) (h0 : n = 0 → 16 ≤ m % 64)
    (h4 : n = 4 → m % 64 < 16) :
    firstPiece (UInt8.ofNat (n + 0xF0))
        (UInt8.ofNat (m % 64 + 128) :: UInt8.ofNat (k % 64 + 128) :: UInt8.ofNat (l % 64 + 128) ::
          rest) =
      ⟨some (Char.ofNat (((n * 64 + m % 64) * 64 + k % 64) * 64 + l % 64)), 3⟩ := by
  have hn : (UInt8.ofNat (n + 0xF0)).toNat = n + 0xF0 := toNat_lead (by omega)
  have hsecond : isSecond (UInt8.ofNat (n + 0xF0)) (UInt8.ofNat (m % 64 + 128)) = true :=
    isSecond_ofNat (by omega) (by omega) (by omega) (by omega) (by omega)
  unfold firstPiece
  simp only [isContinuation_ofNat, hsecond, extend_ofNat, UInt8.lt_iff_toNat_lt,
    UInt8.le_iff_toNat_le, hn, UInt8.reduceToNat, Bool.and_eq_true, decide_eq_true_eq, if_true]
  rw [if_neg (by omega), if_neg (by omega), if_neg (by omega), if_pos (by omega),
    Nat.add_sub_cancel]

/-- The first piece of an encoded character and what follows is the character. -/
theorem pieces_utf8EncodeChar :
    pieces (String.utf8EncodeChar c ++ rest) = some c :: pieces rest := by
  have hvalid : c.val.toNat < 0xD800 ∨ 0xDFFF < c.val.toNat ∧ c.val.toNat < 0x110000 := c.valid
  have hchar {n : Nat} (h : n = c.val.toNat) : Char.ofNat n = c := h ▸ Char.ofNat_toNat c
  unfold String.utf8EncodeChar
  dsimp only
  split_ifs with h1 h2 h3
  · rw [List.cons_append, pieces, firstPiece_one _ (by omega), hchar rfl]
    rfl
  · rw [Nat.mod_eq_of_lt (a := c.val.toNat / 64) (by omega), List.cons_append, List.cons_append,
      pieces, firstPiece_two _ (by omega) (by omega), hchar (by omega)]
    rfl
  · rw [Nat.mod_eq_of_lt (a := c.val.toNat / 4096) (by omega), List.cons_append, List.cons_append,
      List.cons_append, pieces, firstPiece_three _ (by omega) (by omega) (by omega),
      hchar (by omega)]
    rfl
  · rw [Nat.mod_eq_of_lt (a := c.val.toNat / 262144) (by omega), List.cons_append,
      List.cons_append, List.cons_append, List.cons_append, pieces,
      firstPiece_four _ (by omega) (by omega) (by omega), hchar (by omega)]
    rfl

theorem pieces_flatMap (cs : List Char) :
    pieces (cs.flatMap String.utf8EncodeChar) = cs.map some := by
  induction cs with
  | nil => exact pieces_nil
  | cons c cs ih => rw [List.flatMap_cons, pieces_utf8EncodeChar, ih, List.map_cons]

theorem toList_loop (bytes : ByteArray) (i : Nat) (read : List UInt8) :
    ByteArray.toList.loop bytes i read = read.reverse ++ bytes.data.toList.drop i := by
  fun_induction ByteArray.toList.loop with
  | case1 i read h ih =>
    have hi : i < bytes.data.toList.length := h
    have hget : bytes.get! i = bytes.data.toList[i] := getElem!_pos bytes.data i h
    rw [ih, List.drop_eq_getElem_cons hi, hget, List.reverse_cons, List.append_assoc]
    rfl
  | case2 i read h =>
    have hi : bytes.data.toList.length ≤ i := Nat.le_of_not_lt h
    rw [List.drop_eq_nil_of_le hi, List.append_nil]

theorem encode_eq (s : String) : encode s = s.toList.flatMap String.utf8EncodeChar := by
  have hbytes : s.toUTF8 = (s.toList.flatMap String.utf8EncodeChar).toByteArray := by
    rw [String.toUTF8_eq_toByteArray, ← List.utf8Encode, ← String.toByteArray_ofList,
      String.ofList_toList]
  rw [encode, hbytes, ByteArray.toList, toList_loop, List.toList_data_toByteArray]
  rfl

/-- Decoding gives back the text that was encoded. -/
theorem decode?_encode (s : String) : decode? (encode s) = some s := by
  rw [decode?, encode_eq, pieces_flatMap, List.mapM_map]
  have hread : s.toList.mapM (id ∘ some) = some (s.toList.map id) := List.mapM_pure
  rw [hread, List.map_id, Option.map_some, String.ofList_toList]

end PhotoGrouping.Text.Utf8

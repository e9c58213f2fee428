import Mathlib.Data.List.Basic
import Mathlib.Data.Set.Function
import WikiStream.Reference.Resolver
import WikiStream.Text.Numeral

namespace WikiStream.Anchor

open String (utf8EncodeChar)

/-- The bytes that an encoded text stands for. -/
def bytes? : List Char → Option (List UInt8)
  | [] => some []
  | '.' :: high :: low :: s =>
    (Text.readUnsigned? 16 [high, low]).bind fun n ↦ (bytes? s).map (UInt8.ofNat n :: ·)
  | '.' :: _ => none
  | '_' :: s => (bytes? s).map (0x20 :: ·)
  | c :: s => (bytes? s).map (utf8EncodeChar c ++ ·)

def decode? (s : String) : Option String :=
  (bytes? s.toList).bind fun bs ↦ String.fromUTF8? bs.toByteArray

section Alphabet

theorem isSafe_hexDigit {n : Nat} (h : n < 16) : isSafe (hexDigit n) = true := by
  revert n
  decide

theorem isSafe_of_mem_encodeByte {b : UInt8} {c : Char} (h : c ∈ encodeByte b) :
    isSafe c = true := by
  have hb : b.toNat < 256 := b.toNat_lt
  simp only [encodeByte, List.mem_cons, List.not_mem_nil, or_false] at h
  obtain rfl | rfl | rfl := h
  · rfl
  · exact isSafe_hexDigit (by omega)
  · exact isSafe_hexDigit (by omega)

theorem isSafe_of_mem_encodeChar {c d : Char} (h : d ∈ encodeChar c) : isSafe d = true := by
  unfold encodeChar at h
  split at h
  · obtain rfl := List.mem_singleton.1 h
    rfl
  split at h
  · rename_i hsafe
    obtain rfl := List.mem_singleton.1 h
    exact hsafe
  · obtain ⟨b, -, hb⟩ := List.mem_flatMap.1 h
    exact isSafe_of_mem_encodeByte hb

theorem encodeChar_of_isSafe {c : Char} (h : isSafe c = true) : encodeChar c = [c] := by
  have hspace : c ≠ ' ' := by
    rintro rfl
    cases h
  rw [encodeChar, if_neg hspace, if_pos h]

theorem encodeChar_of_not_isSafe {c : Char} (hspace : c ≠ ' ') (h : isSafe c = false) :
    encodeChar c = (utf8EncodeChar c).flatMap encodeByte := by
  rw [encodeChar, if_neg hspace, h]
  rfl

theorem toList_encode (a : String) : (encode a).toList = a.toList.flatMap encodeChar :=
  String.toList_ofList

theorem isSafe_of_mem_encode {a : String} {c : Char} (h : c ∈ (encode a).toList) :
    isSafe c = true := by
  rw [toList_encode] at h
  obtain ⟨d, -, hd⟩ := List.mem_flatMap.1 h
  exact isSafe_of_mem_encodeChar hd

theorem encode_append (a b : String) : encode (a ++ b) = encode a ++ encode b := by
  apply String.toList_injective
  simp only [toList_encode, String.toList_append, List.flatMap_append]

theorem encode_eq_self {a : String} (h : ∀ c ∈ a.toList, isSafe c = true) : encode a = a := by
  apply String.toList_injective
  rw [toList_encode]
  calc a.toList.flatMap encodeChar
    _ = a.toList.flatMap fun c ↦ [c] := List.flatMap_congr fun c hc ↦ encodeChar_of_isSafe (h c hc)
    _ = a.toList := List.flatMap_singleton' _

end Alphabet

section Reading

theorem digitOf?_hexDigit {n : Nat} (h : n < 16) : Text.digitOf? 16 (hexDigit n) = some n := by
  revert n
  decide

theorem readUnsigned?_hexDigits {n : Nat} (h : n < 256) :
    Text.readUnsigned? 16 [hexDigit (n / 16), hexDigit (n % 16)] = some n := by
  have hhigh : Text.digitOf? 16 (hexDigit (n / 16)) = some (n / 16) := digitOf?_hexDigit (by omega)
  have hlow : Text.digitOf? 16 (hexDigit (n % 16)) = some (n % 16) := digitOf?_hexDigit (by omega)
  simp only [Text.readUnsigned?, List.cons_ne_nil, if_false, Text.readDigits?, hhigh, hlow,
    Option.bind_some, Option.some_inj]
  omega

theorem bytes?_encodeByte_append (b : UInt8) (s : List Char) :
    bytes? (encodeByte b ++ s) = (bytes? s).map (b :: ·) := by
  simp only [encodeByte, List.cons_append, List.nil_append, bytes?,
    readUnsigned?_hexDigits b.toNat_lt, Option.bind_some, UInt8.ofNat_toNat]

theorem bytes?_encodeBytes_append (bs : List UInt8) (s : List Char) :
    bytes? (bs.flatMap encodeByte ++ s) = (bytes? s).map (bs ++ ·) := by
  induction bs with
  | nil => exact Option.map_id'.symm
  | cons b bs ih =>
    rw [List.flatMap_cons, List.append_assoc, bytes?_encodeByte_append, ih, Option.map_map]
    rfl

theorem bytes?_cons {c : Char} (hdot : c ≠ '.') (hline : c ≠ '_') (s : List Char) :
    bytes? (c :: s) = (bytes? s).map (utf8EncodeChar c ++ ·) := by
  rw [bytes?] <;> simp [hdot, hline]

/-- A character other than the two is read as its own bytes, whatever comes next. -/
theorem bytes?_encodeChar_append {c : Char} (hdot : c ≠ '.') (hline : c ≠ '_') (s : List Char) :
    bytes? (encodeChar c ++ s) = (bytes? s).map (utf8EncodeChar c ++ ·) := by
  by_cases hspace : c = ' '
  · subst hspace
    have hbyte : utf8EncodeChar ' ' = [0x20] := by decide
    rw [hbyte]
    rfl
  cases hsafe : isSafe c with
  | true => rw [encodeChar_of_isSafe hsafe, List.singleton_append, bytes?_cons hdot hline]
  | false => rw [encodeChar_of_not_isSafe hspace hsafe, bytes?_encodeBytes_append]

theorem bytes?_flatMap_encodeChar {cs : List Char} (hdot : '.' ∉ cs) (hline : '_' ∉ cs) :
    bytes? (cs.flatMap encodeChar) = some (cs.flatMap utf8EncodeChar) := by
  induction cs with
  | nil => rfl
  | cons c cs ih =>
    rw [List.mem_cons, not_or] at hdot hline
    rw [List.flatMap_cons, bytes?_encodeChar_append (Ne.symm hdot.1) (Ne.symm hline.1),
      ih hdot.2 hline.2, Option.map_some, List.flatMap_cons]

theorem fromUTF8?_flatMap (cs : List Char) :
    String.fromUTF8? (cs.flatMap utf8EncodeChar).toByteArray = some (String.ofList cs) := by
  have hvalid : (cs.flatMap utf8EncodeChar).toByteArray.IsValidUTF8 :=
    ByteArray.isValidUTF8_utf8Encode
  rw [String.fromUTF8?, dif_pos hvalid]
  rfl

theorem decode?_encode {a : String} (hdot : '.' ∉ a.toList) (hline : '_' ∉ a.toList) :
    decode? (encode a) = some a := by
  rw [decode?, toList_encode, bytes?_flatMap_encodeChar hdot hline, Option.bind_some,
    fromUTF8?_flatMap, String.ofList_toList]

end Reading

/-- Encoding stays inside the safe alphabet, goes from character to character and changes nothing
when it is done again; what has no dot and no underscore is found again in it. -/
theorem encode_laws :
    (∀ a, ∀ c ∈ (encode a).toList, c.isAlphanum = true ∨ c ∈ ['-', '_', '.', ':']) ∧
    (∀ a b, encode (a ++ b) = encode a ++ encode b) ∧
    (∀ a, encode (encode a) = encode a) ∧
    (∀ a, '.' ∉ a.toList → '_' ∉ a.toList → decode? (encode a) = some a) ∧
    Set.InjOn encode {a | '.' ∉ a.toList ∧ '_' ∉ a.toList} := by
  refine ⟨?_, encode_append, ?_, fun a ↦ decode?_encode, ?_⟩
  · intro a c hc
    have hsafe : isSafe c = true := isSafe_of_mem_encode hc
    simp only [isSafe, Bool.or_eq_true, decide_eq_true_eq, or_assoc] at hsafe
    simpa only [List.mem_cons, List.not_mem_nil, or_false] using hsafe
  · intro a
    exact encode_eq_self fun c hc ↦ isSafe_of_mem_encode hc
  · intro a ha b hb hab
    have hread : decode? (encode a) = some a := decode?_encode ha.1 ha.2
    rw [hab, decode?_encode hb.1 hb.2] at hread
    exact (Option.some_inj.1 hread).symm

theorem encode_laws_section :
    encode "Größe: 5 €" = "Gr.C3.B6.C3.9Fe:_5_.E2.82.AC" ∧
      decode? "Gr.C3.B6.C3.9Fe:_5_.E2.82.AC" = some "Größe: 5 €" := by
  have hcode : encode "Größe: 5 €" = "Gr.C3.B6.C3.9Fe:_5_.E2.82.AC" := by decide +kernel
  have hback := encode_laws.2.2.2.1 "Größe: 5 €" (by decide +kernel) (by decide +kernel)
  rw [hcode] at hback
  exact ⟨hcode, hback⟩

/-- An underscore stands for a space, so anchors with and without it are written alike. -/
example : encode "a b" = encode "a_b" := by decide

end WikiStream.Anchor

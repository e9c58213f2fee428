import Mathlib.Data.List.Basic
import WikiStream.Json.Lexical
import WikiStream.Json.Writer

namespace WikiStream.Json

def Blanks (s : List Char) : Prop := ∀ c ∈ s, isBlank c = true

instance (s : List Char) : Decidable (Blanks s) :=
  decidable_of_iff (s.all isBlank = true) List.all_eq_true

/-- `StringText s cs`: after an opening quote, `s` is the rest of a string of the letters `cs`. -/
inductive StringText : List Char → List Char → Prop
  | close : StringText ['"'] []
  | letter {c : Char} {s cs : List Char} : c ≠ '"' → c ≠ '\\' → 0x20 ≤ c.toNat →
      StringText s cs → StringText (c :: s) (c :: cs)
  | escape {c d : Char} {s cs : List Char} : simpleEscape? c = some d →
      StringText s cs → StringText ('\\' :: c :: s) (d :: cs)
  | unicode {a b c d : Char} {n : Nat} {s cs : List Char} : hexValue? a b c d = some n →
      isHighSurrogate n = false → isLowSurrogate n = false →
      StringText s cs → StringText ('\\' :: 'u' :: a :: b :: c :: d :: s) (Char.ofNat n :: cs)
  | surrogates {a b c d a' b' c' d' : Char} {n m : Nat} {s cs : List Char} :
      hexValue? a b c d = some n → isHighSurrogate n = true →
      hexValue? a' b' c' d' = some m → isLowSurrogate m = true → StringText s cs →
      StringText ('\\' :: 'u' :: a :: b :: c :: d :: '\\' :: 'u' :: a' :: b' :: c' :: d' :: s)
        (pairSurrogates n m :: cs)

inductive Opener : Bool → List Char → Prop
  | first {b : List Char} : Blanks b → Opener true b
  | next {b b' : List Char} : Blanks b → Blanks b' → Opener false (b ++ ',' :: b')

mutual

/-- `s` is a text of the value, from its first letter to its last. -/
inductive Spells : List Char → Value → Prop
  | null : Spells ['n', 'u', 'l', 'l'] .null
  | yes : Spells ['t', 'r', 'u', 'e'] (.bool true)
  | no : Spells ['f', 'a', 'l', 's', 'e'] (.bool false)
  | positive {s : List Char} {n : Number} : readNumber .keep false s = .ok (n, []) →
      Spells s (.number n)
  | negative {s : List Char} {n : Number} : readNumber .keep true s = .ok (n, []) →
      Spells ('-' :: s) (.number n)
  | string {s cs : List Char} : StringText s cs → Spells ('"' :: s) (.string (String.ofList cs))
  | array {s : List Char} {vs : List Value} : Items true s vs → Spells ('[' :: s) (.array vs)
  | object {s : List Char} {ms : List (String × Value)} : Members true s ms →
      Spells ('\x7b' :: s) (.object ms)

inductive Items : Bool → List Char → List Value → Prop
  | close {first : Bool} {b : List Char} : Blanks b → Items first (b ++ [']']) []
  | item {first : Bool} {o s t : List Char} {v : Value} {vs : List Value} : Opener first o →
      Spells s v → Items false t vs → Items first (o ++ (s ++ t)) (v :: vs)

inductive Members : Bool → List Char → List (String × Value) → Prop
  | close {first : Bool} {b : List Char} : Blanks b → Members first (b ++ ['\x7d']) []
  | member {first : Bool} {o k cs b b' s t : List Char} {v : Value} {ms : List (String × Value)} :
      Opener first o → StringText k cs → Blanks b → Blanks b' → Spells s v → Members false t ms →
      Members first (o ++ '"' :: (k ++ (b ++ ':' :: (b' ++ (s ++ t)))))
        ((String.ofList cs, v) :: ms)

end

def Denotes (s : List Char) (v : Value) : Prop :=
  ∃ b w b', Blanks b ∧ Spells w v ∧ Blanks b' ∧ s = b ++ (w ++ b')

mutual

def Value.NumberFree : Value → Prop
  | .number _ => False
  | .array items => NumberFreeItems items
  | .object members => NumberFreeMembers members
  | .null | .bool _ | .string _ => True

def NumberFreeItems : List Value → Prop
  | [] => True
  | v :: rest => v.NumberFree ∧ NumberFreeItems rest

def NumberFreeMembers : List (String × Value) → Prop
  | [] => True
  | (_, v) :: rest => v.NumberFree ∧ NumberFreeMembers rest

end

theorem blanks_nil : Blanks [] := fun _ h ↦ nomatch h

theorem Opener.comma : Opener false [','] := .next blanks_nil blanks_nil

theorem numberFreeMembers_append {ms rest : List (String × Value)} :
    NumberFreeMembers (ms ++ rest) ↔ NumberFreeMembers ms ∧ NumberFreeMembers rest := by
  induction ms with
  | nil => simp [NumberFreeMembers]
  | cons p ms ih => simp [NumberFreeMembers, ih, and_assoc]

theorem hexValue?_hexDigit {n : Nat} (h : n < 0x20) :
    hexValue? '0' '0' (hexDigit (n / 16)) (hexDigit (n % 16)) = some n := by
  revert n
  decide

theorem stringText_escapeChar (c : Char) {s cs : List Char} (h : StringText s cs) :
    StringText (escapeChar c ++ s) (c :: cs) := by
  fun_cases escapeChar c with
  | case1 | case2 | case3 | case4 | case5 | case6 | case7 =>
    subst_vars
    exact .escape rfl h
  | case8 _ _ _ _ _ _ _ hc =>
    have hhigh : isHighSurrogate c.toNat = false := by
      simp only [isHighSurrogate, Bool.and_eq_false_imp, decide_eq_true_eq, decide_eq_false_iff_not]
      omega
    have hlow : isLowSurrogate c.toNat = false := by
      simp only [isLowSurrogate, Bool.and_eq_false_imp, decide_eq_true_eq, decide_eq_false_iff_not]
      omega
    have hu := StringText.unicode (hexValue?_hexDigit hc) hhigh hlow h
    rwa [Char.ofNat_toNat] at hu
  | case9 hquote hbackslash _ _ _ _ _ hc =>
    exact .letter hquote hbackslash (Nat.le_of_not_lt hc) h

theorem stringText_flatMap (cs : List Char) :
    StringText (cs.flatMap escapeChar ++ ['"']) cs := by
  induction cs with
  | nil => exact .close
  | cons c cs ih =>
    rw [List.flatMap_cons, List.append_assoc]
    exact stringText_escapeChar c ih

theorem spells_writeString (s : String) : Spells (writeString s) (.string s) := by
  have h := Spells.string (stringText_flatMap s.toList)
  rwa [String.ofList_toList] at h

mutual

theorem spells_writeChars (v : Value) (h : v.NumberFree) : Spells v.writeChars v := by
  match v with
  | .null => exact .null
  | .bool true => exact .yes
  | .bool false => exact .no
  | .string s => exact spells_writeString s
  | .number _ => cases h
  | .array [] => exact .array (.close blanks_nil)
  | .array (v :: rest) =>
    exact .array (items_writeItems (v :: rest) (List.cons_ne_nil _ _) h (.first blanks_nil))
  | .object [] => exact .object (.close blanks_nil)
  | .object (m :: rest) =>
    exact .object (members_writeMembers (m :: rest) (List.cons_ne_nil _ _) h (.first blanks_nil))

theorem items_writeItems (vs : List Value) (hne : vs ≠ []) (h : NumberFreeItems vs)
    {first : Bool} {o : List Char} (ho : Opener first o) :
    Items first (o ++ (Value.writeItems vs ++ [']'])) vs := by
  match vs with
  | [] => exact absurd rfl hne
  | [v] =>
    simp only [Value.writeItems]
    exact .item ho (spells_writeChars v h.1) (.close blanks_nil)
  | v :: w :: rest =>
    have hrest := items_writeItems (w :: rest) (List.cons_ne_nil _ _) h.2 .comma
    simp only [Value.writeItems, List.append_assoc, List.cons_append]
    exact .item ho (spells_writeChars v h.1) hrest

theorem members_writeMembers (ms : List (String × Value)) (hne : ms ≠ [])
    (h : NumberFreeMembers ms) {first : Bool} {o : List Char} (ho : Opener first o) :
    Members first (o ++ (Value.writeMembers ms ++ ['\x7d'])) ms := by
  match ms with
  | [] => exact absurd rfl hne
  | [(key, v)] =>
    have hm := Members.member ho (stringText_flatMap key.toList) blanks_nil blanks_nil
      (spells_writeChars v h.1) (.close blanks_nil)
    rw [String.ofList_toList] at hm
    simpa [Value.writeMembers, writeString] using hm
  | (key, v) :: m :: rest =>
    have hrest := members_writeMembers (m :: rest) (List.cons_ne_nil _ _) h.2 .comma
    have hm := Members.member ho (stringText_flatMap key.toList) blanks_nil blanks_nil
      (spells_writeChars v h.1) hrest
    rw [String.ofList_toList] at hm
    simpa [Value.writeMembers, writeString] using hm

end

end WikiStream.Json

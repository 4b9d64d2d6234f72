import DocPath.Proofs.Walk.Digits

/-! A mapping answers with the item that was inserted last.

Keys are the same by value, so one entry may stand for many items: a number of any type takes the
place of an equal one, and keeps the key that was there first. What is found under a key depends on
the items alone all the same. The keys that are the same as a text are that text and nothing else,
and those that are the same as a whole number are the numbers of its exact value; either set is a
class, which no other key comes into (`IsClass`). An item of a class replaces what was found there
and any other leaves it (`IsClass.find?_insert`), so in the end the last item of the class is found
(`IsClass.find?_ofItems`). A text is looked for first, and the number that it spells only after
that. -/
namespace DocPath

/-! ### Classes of keys -/

/-- A key inside the class and any other are the same exactly if the other is inside too. -/
def IsClass (p : Value → Bool) : Prop :=
  ∀ k key, p k = true ∨ p key = true → k.same key = (p k && p key)

/-- The value of the last item whose key passes. -/
def lastUnder (p : Value → Bool) (items : List (Value × Value)) : Option Value :=
  (items.filter fun item => p item.1).getLast?.map Prod.snd

theorem lastUnder_nil (p : Value → Bool) : lastUnder p [] = none := rfl

theorem lastUnder_cons (p : Value → Bool) (item : Value × Value) (items : List (Value × Value)) :
    lastUnder p (item :: items) =
      (lastUnder p items).or (if p item.1 = true then some item.2 else none) := by
  rw [lastUnder, lastUnder, List.filter_cons]
  by_cases hp : p item.1 = true
  · rw [if_pos hp, if_pos hp, List.getLast?_cons]
    cases (items.filter fun item => p item.1).getLast? <;> rfl
  · rw [if_neg hp, if_neg hp, Option.or_none]

namespace IsClass

variable {p : Value → Bool} (hclass : IsClass p)

include hclass

theorem eq_of_same {k key : Value} (h : k.same key = true) : p k = p key := by
  by_cases hin : p k = true ∨ p key = true
  · rw [hclass k key hin, Bool.and_eq_true] at h
    rw [h.1, h.2]
  · obtain ⟨hk, hkey⟩ := not_or.mp hin
    rw [Bool.eq_false_iff.mpr hk, Bool.eq_false_iff.mpr hkey]

variable {q : Value} (hq : p q = true)

include hq

theorem find?_cons (k v : Value) (entries : List (Value × Value)) :
    Entries.find? q ((k, v) :: entries) =
      if p k = true then some v else Entries.find? q entries := by
  rw [Entries.find?, hclass k q (.inr hq), hq, Bool.and_true]

/-- An item of the class is found from now on; any other changes nothing about it. -/
theorem find?_insert (key v : Value) (entries : List (Value × Value)) :
    Entries.find? q (Entries.insert key v entries) =
      if p key = true then some v else Entries.find? q entries := by
  induction entries with
  | nil => exact hclass.find?_cons hq key v []
  | cons entry entries ih =>
    obtain ⟨k, w⟩ := entry
    rw [Entries.insert, hclass.find?_cons hq]
    by_cases hsame : k.same key = true
    · -- The entry takes the new value; it is of the class exactly if the item is.
      rw [if_pos hsame, hclass.find?_cons hq, hclass.eq_of_same hsame]
      split <;> rfl
    · rw [if_neg hsame, hclass.find?_cons hq, ih]
      by_cases hk : p k = true
      · have hkey : ¬ p key = true := by
          intro hkey
          exact hsame (by rw [hclass k key (.inl hk), hk, hkey, Bool.and_self])
        rw [if_pos hk, if_neg hkey, if_pos hk]
      · rw [if_neg hk, if_neg hk]

theorem find?_foldl_insert (items entries : List (Value × Value)) :
    Entries.find? q
        (items.foldl (fun entries item => Entries.insert item.1 item.2 entries) entries) =
      (lastUnder p items).or (Entries.find? q entries) := by
  induction items generalizing entries with
  | nil => rfl
  | cons item items ih =>
    rw [List.foldl_cons, ih, hclass.find?_insert hq, lastUnder_cons, Option.or_assoc]
    split <;> rfl

theorem find?_ofItems (items : List (Value × Value)) :
    Entries.find? q (Entries.ofItems items) = lastUnder p items := by
  rw [Entries.ofItems, hclass.find?_foldl_insert hq, Entries.find?, Option.or_none]

end IsClass

/-! ### Leaves as keys -/

theorem Binary64.same_comm (x y : Binary64) : x.same y = y.same x := by
  cases x with
  | finite m =>
    cases y with
    | finite n => exact BEq.comm
    | _ => rfl
  | infinite a =>
    cases y with
    | infinite b => exact BEq.comm
    | _ => rfl
  | undefined => cases y <;> rfl

theorem Atom.same_comm (a b : Atom) : a.same b = b.same a := by
  rw [Atom.same, Atom.same]
  cases a.number? with
  | none =>
    cases b.number? with
    | none => exact BEq.comm
    | some parts => rfl
  | some parts =>
    cases b.number? with
    | none => rfl
    | some parts' =>
      show (parts.1.same parts'.1 && parts.2.same parts'.2) = _
      rw [Binary64.same_comm parts.1, Binary64.same_comm parts.2]

/-- The values that are leaves which pass. -/
def Value.isAtom (p : Atom → Bool) : Value → Bool
  | .atom a => p a
  | _ => false

theorem Value.isAtom_iff {p : Atom → Bool} {v : Value} :
    v.isAtom p = true ↔ ∃ a, v = .atom a ∧ p a = true := by
  cases v <;> simp [Value.isAtom]

theorem Value.same_atom_left (a : Atom) (w : Value) : (Value.atom a).same w = w.isAtom a.same := by
  cases w <;> rfl

theorem Value.same_atom_right (v : Value) (b : Atom) : v.same (.atom b) = v.isAtom b.same := by
  cases v with
  | atom a => exact a.same_comm b
  | _ => simp [Value.same, Value.isAtom, Value.tuple?]

/-- Leaves that are the same as each other and as no other leaf make a class: no other value is the
same as a leaf. -/
theorem isClass_isAtom {p : Atom → Bool} (h : ∀ a, p a = true → ∀ b, a.same b = p b) :
    IsClass (Value.isAtom p) := by
  intro k key hin
  rcases hin with hk | hkey
  · obtain ⟨a, rfl, ha⟩ := Value.isAtom_iff.mp hk
    rw [Value.same_atom_left, hk, Bool.true_and, funext (h a ha)]
  · obtain ⟨b, rfl, hb⟩ := Value.isAtom_iff.mp hkey
    rw [Value.same_atom_right, hkey, Bool.and_true, funext (h b hb)]

/-! ### Texts -/

def Value.isText (s : String) : Value → Bool := isAtom fun a => decide (a = .text s)

theorem Value.isText_text (s : String) : isText s (.text s) = true := decide_eq_true rfl

/-- A text is the same as itself only. -/
theorem isClass_isText (s : String) : IsClass (Value.isText s) := by
  apply isClass_isAtom
  intro a ha b
  obtain rfl : a = .text s := of_decide_eq_true ha
  rw [Atom.same_comm]
  cases b <;> rfl

/-! ### Numbers -/

/-- The leaves that are numbers of a whole value, exactly. True counts as one and false as zero; a
floating-point number is as many units as the integer is, and a complex one has no imaginary
part. -/
def Atom.isWhole (n : Int) : Atom → Bool
  | .bool b => decide (b.toInt = n)
  | .int m => decide (m = n)
  | .float t => decide (Binary64.ofText t = .ofInt n)
  | .complex re im => decide (Binary64.ofText re = .ofInt n) && decide (Binary64.ofText im = .zero)
  | .null | .text _ | .bytes _ => false

def Value.isWhole (n : Int) : Value → Bool := isAtom (Atom.isWhole n)

theorem Value.isWhole_int (n : Int) : isWhole n (.int n) = true := decide_eq_true rfl

theorem Binary64.same_finite_iff (m : Int) (x : Binary64) :
    (finite m).same x = true ↔ x = .finite m := by
  cases x with
  | finite n =>
    rw [same, beq_iff_eq, finite.injEq]
    exact eq_comm
  | _ => simp [same]

/-- Counting in units keeps integers apart. -/
theorem Binary64.ofInt_inj {m n : Int} : ofInt m = ofInt n ↔ m = n := by
  have hone : (one : Int) ≠ 0 := by
    unfold one
    generalize 1074 = k
    have hpos : 0 < Nat.pow 2 k := Nat.pow_pos (by decide)
    omega
  rw [ofInt, ofInt, finite.injEq]
  exact Int.mul_eq_mul_right_iff hone

theorem Atom.isWhole_iff (n : Int) (a : Atom) :
    a.isWhole n = true ↔ a.number? = some (.ofInt n, .zero) := by
  cases a <;> simp [isWhole, number?, Binary64.ofInt_inj]

/-- A whole number is the same as the numbers of its value only. -/
theorem isClass_isWhole (n : Int) : IsClass (Value.isWhole n) := by
  apply isClass_isAtom
  intro a ha b
  rw [Bool.eq_iff_iff, Atom.isWhole_iff, Atom.same, (Atom.isWhole_iff n a).mp ha]
  cases b.number? with
  | none => simp
  | some parts =>
    show ((Binary64.ofInt n).same parts.1 && Binary64.zero.same parts.2) = true ↔ _
    rw [Bool.and_eq_true, Option.some_inj, Prod.ext_iff]
    exact and_congr (Binary64.same_finite_iff ..) (Binary64.same_finite_iff ..)

/-! ### Mappings -/

theorem numberOf_of_not_overlong {key : String} (h : ¬ Overlong key) :
    numberOf key = .ok (if Path.isNumeral key.toList = true then
      some (Text.digitsValue key.toList) else none) := by
  rw [numberOf_eq]
  by_cases hnumeral : Path.isNumeral key.toList = true
  · have hshort : ¬ digitLimit < key.length := fun hlong => h ⟨hnumeral, hlong⟩
    rw [if_pos hnumeral, if_pos hnumeral, if_neg hshort]
  · rw [if_neg hnumeral, if_neg hnumeral]

/-- **A mapping answers with the item that was inserted last.** Filled with items in order, whatever
their keys, it has under a text the value of the last item with that text as its key. Where there is
none and the text is a numeral, it has the value of the last item whose key is a number of the value
that the numeral spells, of whatever type; otherwise it has nothing. -/
theorem lookup_last_item (kind : MappingKind) (hkind : kind ≠ .broken)
    (items : List (Value × Value)) (attributes : List (String × Value)) (key : String)
    (hkey : ¬ Overlong key) :
    Adapter.lookup .mapping (.map kind items attributes) key =
      .pure (((lastUnder (Value.isText key) items).or
        (if Path.isNumeral key.toList = true then
          lastUnder (Value.isWhole (Text.digitsValue key.toList)) items
        else none)).getD .missing) := by
  have htext : Entries.find? (.text key) (Entries.ofItems items) =
      lastUnder (Value.isText key) items :=
    (isClass_isText key).find?_ofItems (Value.isText_text key) items
  have hnumber (n : Nat) : Entries.find? (.int n) (Entries.ofItems items) =
      lastUnder (Value.isWhole n) items :=
    (isClass_isWhole n).find?_ofItems (Value.isWhole_int n) items
  show Trace.lift (entryOf kind (Entries.ofItems items) key) = _
  rw [entryOf_eq, htext, numberOf_of_not_overlong hkey, if_neg hkind]
  cases lastUnder (Value.isText key) items with
  | some v => rfl
  | none =>
    by_cases hnumeral : Path.isNumeral key.toList = true
    · rw [if_pos hnumeral, if_pos hnumeral, Option.none_or, ← hnumber]
      rfl
    · rw [if_neg hnumeral, if_neg hnumeral]
      rfl

/-- One entry stands for true, 1.0 and 1+0i, and answers to a numeral with leading zeros; under a
text that is a key itself the number is not asked for. -/
theorem lookup_last_item_leading_zeros :
    MappingKind.ordered ≠ .broken ∧ ¬ Overlong "001" ∧ ¬ Overlong "1" ∧
    Adapter.lookup .mapping (.map .ordered [(.bool true, .text "a"), (.text "1", .text "b"),
      (.atom (.float "1.0"), .text "c"), (.atom (.complex "1.0" "0.0"), .text "d")] []) "001" =
      .pure (.text "d") ∧
    Adapter.lookup .mapping (.map .ordered [(.bool true, .text "a"), (.text "1", .text "b"),
      (.atom (.float "1.0"), .text "c"), (.atom (.complex "1.0" "0.0"), .text "d")] []) "1" =
      .pure (.text "b") := by
  have hzeros : ¬ Overlong "001" := by decide
  have hdigit : ¬ Overlong "1" := by decide
  have hvalue : Text.digitsValue "001".toList = 1 := by decide
  have hcomplex : Value.isWhole 1 (.atom (.complex "1.0" "0.0")) = true := by decide +kernel
  refine ⟨by decide, hzeros, hdigit, ?_, ?_⟩
  · rw [lookup_last_item .ordered (by decide) _ _ _ hzeros]
    have hnone : lastUnder (Value.isText "001") [(.bool true, .text "a"), (.text "1", .text "b"),
        (.atom (.float "1.0"), .text "c"), (.atom (.complex "1.0" "0.0"), .text "d")] = none := rfl
    rw [hnone, Option.none_or, if_pos (by decide), hvalue]
    simp [lastUnder_nil, lastUnder_cons, hcomplex]
  · rw [lookup_last_item .ordered (by decide) _ _ _ hdigit]
    rfl

end DocPath

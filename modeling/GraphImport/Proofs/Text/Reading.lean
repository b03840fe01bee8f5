import GraphImport.Proofs.Text.Joined
import Mathlib.Data.List.Basic

/-!
# Reading texts

Readers take a value off the front of a text and leave the rest. They are the other side of the
functions that write texts: a written text is unambiguous when some reader takes back from it what
was written, whatever follows.

* `Reader` — the readers, with `Reader.expect`, `Reader.optional`, `Reader.span` and `Reader.many`.
* `Reads p text value rest` — in front of `rest`, the reader takes the value off exactly this text.
* `Reads.unique` — what a reader makes of a text does not depend on how the text was cut.
-/

namespace GraphImport

/-! ## Digits -/

/-- All characters are decimal digits. -/
def IsDigits (s : String) : Prop := ∀ c ∈ s.toList, c.isDigit = true

/-- A written number consists of digits. -/
theorem isDigits_toString (n : Nat) : IsDigits (toString n) := by
  intro c hc
  rw [Nat.toString_eq_ofList_toDigits, String.toList_ofList] at hc
  exact Nat.isDigit_of_mem_toDigits (by decide) (by decide) hc

/-- Digits have the value of the number that was written. -/
theorem ofDigitChars_toString (n : Nat) : Nat.ofDigitChars 10 (toString n).toList 0 = n := by
  rw [Nat.toString_eq_ofList_toDigits, String.toList_ofList, Nat.ofDigitChars_ten_toDigits]

/-- A number is written with at least one digit. -/
theorem toString_ne_empty (n : Nat) : toString n ≠ "" := Nat.repr_ne_empty

/-! ## Readers -/

/-- Takes a value off the front of a text, or refuses the text. -/
abbrev Reader (α : Type) : Type := StateT (List Char) Option α

/-- **Reading what was written**: in front of `rest`, the reader takes the value off exactly this
text. -/
def Reads {α : Type} (p : Reader α) (text : String) (value : α) (rest : List Char) : Prop :=
  p (text.toList ++ rest) = some (value, rest)

namespace Reader

variable {α : Type}

/-- Takes this word. -/
def expect (word : String) : Reader Unit := fun text =>
  (word.toList.isPrefixOf? text).map fun rest => ((), rest)

/-- Takes this word and what the reader finds behind it, if the word is there. -/
def optional (word : String) (p : Reader α) : Reader (Option α) := fun text =>
  match word.toList.isPrefixOf? text with
  | some rest => (p rest).map fun (value, rest) => (some value, rest)
  | none => some (none, text)

/-- Takes the longest run of such characters. -/
def span (p : Char → Bool) : Reader String := fun text =>
  some (String.ofList (text.takeWhile p), text.dropWhile p)

/-- Takes the digits of a natural number. -/
def natural : Reader Nat := do
  let digits ← span Char.isDigit
  return Nat.ofDigitChars 10 digits.toList 0

/-- Takes values up to this word, but not more of them than `left`. -/
def untilUpTo (word : String) (p : Reader α) : (left : Nat) → Reader (List α)
  | 0 => fun _ => none
  | left + 1 => do
    match ← optional word (pure ()) with
    | some () => return []
    | none =>
      let value ← p
      return value :: (← untilUpTo word p left)

/-- Takes values up to this word, and the word. -/
def untilWord (word : String) (p : Reader α) : Reader (List α) := fun text =>
  untilUpTo word p (text.length + 1) text

/-- Takes a value as often as the word stands in front of it, but not more often than `left`. -/
def manyUpTo (word : String) (p : Reader α) : (left : Nat) → Reader (List α)
  | 0 => pure []
  | left + 1 => do
    match ← optional word p with
    | none => return []
    | some value => return value :: (← manyUpTo word p left)

/-- Takes a value as often as the word stands in front of it. -/
def many (word : String) (p : Reader α) : Reader (List α) := fun text =>
  manyUpTo word p text.length text

end Reader

/-! ## What follows -/

/-- What holds of the first character of a word holds of that of every text which begins with the
word. -/
theorem forall_head_append {P : Char → Prop} (word : String) {c : Char} {cs : List Char}
    (hword : word.toList = c :: cs) (hc : P c) (after : List Char) :
    ∀ d ∈ (word.toList ++ after).head?, P d := by
  intro d hd
  rw [hword, List.cons_append, List.head?_cons, Option.mem_some_iff] at hd
  exact hd ▸ hc

/-- The text does not go on with this word. -/
def Stops (word : String) (rest : List Char) : Prop := word.toList.isPrefixOf? rest = none

/-- A text does not go on with a word when it goes on with another character. -/
theorem stops_of_head {word : String} {c : Char} {cs rest : List Char}
    (hword : word.toList = c :: cs) (h : ∀ d ∈ rest.head?, d ≠ c) : Stops word rest := by
  unfold Stops
  rw [hword]
  cases rest with
  | nil => rfl
  | cons d rest =>
      have hne : ¬(c == d) = true := fun heq => h d rfl (eq_of_beq heq).symm
      rw [List.isPrefixOf?, if_neg hne]

/-- A text does not go on with a word when it goes on with another one. -/
theorem stops_append {word other : String} {c d : Char} {cs ds : List Char}
    (hword : word.toList = c :: cs) (hother : other.toList = d :: ds) (hne : d ≠ c)
    (after : List Char) : Stops word (other.toList ++ after) :=
  stops_of_head hword (forall_head_append other hother hne after)

namespace Reads

variable {α β : Type} {p : Reader α} {f : α → Reader β} {s t : String} {a : α} {b : β}
  {rest : List Char}

/-! ## Steps -/

/-- Nothing is read where nothing is written. -/
theorem pure (a : α) (rest : List Char) : Reads (Pure.pure a) "" a rest := rfl

/-- Two texts one behind the other are read one after the other. -/
theorem bind (hp : Reads p s a (t.toList ++ rest)) (hf : Reads (f a) t b rest) :
    Reads (p >>= f) (s ++ t) b rest := by
  unfold Reads at *
  change (p ((s ++ t).toList ++ rest)).bind (fun x => f x.1 x.2) = _
  rw [String.toList_append, List.append_assoc, hp]
  exact hf

/-- The first of two readers may find nothing to take. -/
theorem bind_left (hp : Reads p "" a (t.toList ++ rest)) (hf : Reads (f a) t b rest) :
    Reads (p >>= f) t b rest := by
  have h := hp.bind hf
  rwa [String.empty_append] at h

/-- The second of two readers may find nothing to take. -/
theorem bind_right (hp : Reads p s a rest) (hf : Reads (f a) "" b rest) :
    Reads (p >>= f) s b rest := by
  have h := Reads.bind (t := "") hp hf
  rwa [String.append_empty] at h

/-- The first of two texts may need the word with which the second begins. -/
theorem bind_word {word : String} (hp : ∀ after, Reads p s a (word.toList ++ after))
    (hf : Reads (f a) (word ++ t) b rest) : Reads (p >>= f) (s ++ (word ++ t)) b rest := by
  refine Reads.bind ?_ hf
  rw [String.toList_append, List.append_assoc]
  exact hp _

/-- The first of two readers may find nothing to take in front of a word. -/
theorem bind_left_word {word : String} (hp : ∀ after, Reads p "" a (word.toList ++ after))
    (hf : Reads (f a) (word ++ t) b rest) : Reads (p >>= f) (word ++ t) b rest := by
  have h := bind_word hp hf
  rwa [String.empty_append] at h

/-- A reader that computes from what another one takes. -/
theorem bind_pure {g : α → β} (hp : Reads p s a rest) :
    Reads (p >>= fun x => Pure.pure (g x)) s (g a) rest := by
  unfold Reads at *
  change (p (s.toList ++ rest)).bind (fun x => some (g x.1, x.2)) = _
  rw [hp]
  rfl

/-- A word is read back. -/
theorem expect (word : String) (rest : List Char) : Reads (Reader.expect word) word () rest := by
  have h : word.toList.isPrefixOf? (word.toList ++ rest) = some rest :=
    List.isPrefixOf?_eq_some_iff_append_eq.mpr rfl
  unfold Reads Reader.expect
  rw [h]
  rfl

/-- What stands behind an optional word is read when the word is there. -/
theorem optional_some (word : String) (hp : Reads p s a rest) :
    Reads (Reader.optional word p) (word ++ s) (some a) rest := by
  have h : word.toList.isPrefixOf? (word.toList ++ (s.toList ++ rest)) = some (s.toList ++ rest) :=
    List.isPrefixOf?_eq_some_iff_append_eq.mpr rfl
  unfold Reads Reader.optional at *
  rw [String.toList_append, List.append_assoc, h]
  simp only [hp, Option.map_some]

/-- Nothing is read when the optional word is not there. -/
theorem optional_none {word : String} (p : Reader α) (h : Stops word rest) :
    Reads (Reader.optional word p) "" none rest := by
  unfold Stops at h
  unfold Reads Reader.optional
  rw [String.toList_empty, List.nil_append, h]

/-- A run of characters is read back when the text does not go on with another one. -/
theorem span {q : Char → Bool} (hs : ∀ c ∈ s.toList, q c = true)
    (hrest : ∀ c ∈ rest.head?, q c = false) : Reads (Reader.span q) s s rest := by
  have hstop : rest.takeWhile q = [] ∧ rest.dropWhile q = rest := by
    cases rest with
    | nil => exact ⟨rfl, rfl⟩
    | cons c rest =>
      have hc : q c = false := hrest c rfl
      constructor <;> simp [hc]
  unfold Reads Reader.span
  rw [List.takeWhile_append_of_pos hs, List.dropWhile_append_of_pos hs, hstop.1, hstop.2,
    List.append_nil, String.ofList_toList]

/-- A natural number is read back when the text does not go on with a digit. -/
theorem natural (n : Nat) (hrest : ∀ c ∈ rest.head?, c.isDigit = false) :
    Reads Reader.natural (toString n) n rest := by
  have h := (span (isDigits_toString n) hrest).bind_pure
    (g := fun digits => Nat.ofDigitChars 10 digits.toList 0)
  rwa [ofDigitChars_toString] at h

/-! ## Repetition -/

variable {γ : Type} {word : String} {text : γ → String} {value : γ → α}
  {follows : List Char → Prop}

/-- Values that are written one after the other, each behind the word, are read back up to the
first place where the word is missing. Each of them has to be readable in front of the word and in
front of the rest. -/
theorem manyUpTo (hword : ∀ after, follows (word.toList ++ after)) (hrest : follows rest)
    (hstop : Stops word rest) :
    ∀ (items : List γ) (left : Nat), items.length ≤ left →
      (∀ item ∈ items, ∀ after, follows after → Reads p (text item) (value item) after) →
      Reads (Reader.manyUpTo word p left) (String.join (items.map fun item => word ++ text item))
        (items.map value) rest
  | [], 0, _, _ => rfl
  | [], left + 1, _, _ => (optional_none p hstop).bind (t := "") (pure _ _)
  | item :: items, left + 1, hleft, hitems => by
      have hfollows : follows
          ((String.join (items.map fun item => word ++ text item)).toList ++ rest) := by
        cases items with
        | nil => exact hrest
        | cons next items =>
            rw [List.map_cons, String.join_cons, String.append_assoc, String.toList_append,
              List.append_assoc]
            exact hword _
      have hitem := hitems item List.mem_cons_self _ hfollows
      have hrec := manyUpTo hword hrest hstop items left (Nat.le_of_succ_le_succ hleft)
        fun next hnext => hitems next (List.mem_cons_of_mem _ hnext)
      rw [List.map_cons, String.join_cons]
      exact (optional_some word hitem).bind hrec.bind_pure

/-- **Repetition**: values that are written one after the other, each behind the word, are all
read back. -/
theorem many (hne : word ≠ "") (hword : ∀ after, follows (word.toList ++ after))
    (hrest : follows rest) (hstop : Stops word rest) {items : List γ}
    (hitems : ∀ item ∈ items, ∀ after, follows after → Reads p (text item) (value item) after) :
    Reads (Reader.many word p) (String.join (items.map fun item => word ++ text item))
      (items.map value) rest := by
  have hnonempty : ∀ item : γ, word ++ text item ≠ "" := fun item h =>
    hne (String.append_eq_empty_iff.mp h).1
  have hcount := count_le_length_join hnonempty items
  rw [← String.length_toList] at hcount
  exact manyUpTo hword hrest hstop items _ (by rw [List.length_append]; omega) hitems

/-- Values up to a word are read back when none of them begins like the word. -/
theorem untilUpTo (hword : ∀ item : γ, ∀ after, Stops word ((text item).toList ++ after))
    (hitem : ∀ item after, Reads p (text item) (value item) after) :
    ∀ (items : List γ) (left : Nat), items.length < left →
      Reads (Reader.untilUpTo word p left) (String.join (items.map text) ++ word)
        (items.map value) rest
  | [], left + 1, _ => by
      have hend := (optional_some word (pure () rest)).bind_right (f := fun found =>
        match found with
        | some () => Pure.pure []
        | none => do
          let value ← p
          return value :: (← Reader.untilUpTo word p left)) (pure [] rest)
      rw [String.append_empty] at hend
      rw [List.map_nil, String.join_nil, String.empty_append]
      exact hend
  | item :: items, left + 1, hleft => by
      have hrec := untilUpTo hword hitem items left (Nat.lt_of_succ_lt_succ hleft)
      have hnone := optional_none (Pure.pure () : Reader Unit)
        (hword item ((String.join (items.map text) ++ word).toList ++ rest))
      rw [← List.append_assoc, ← String.toList_append] at hnone
      rw [List.map_cons, String.join_cons, String.append_assoc]
      exact hnone.bind_left ((hitem item _).bind hrec.bind_pure)

/-- **Delimited values**: values up to a word are all read back when none of them begins like the
word. -/
theorem untilWord (hlength : ∀ item : γ, text item ≠ "")
    (hword : ∀ item : γ, ∀ after, Stops word ((text item).toList ++ after))
    (hitem : ∀ item after, Reads p (text item) (value item) after) (items : List γ) :
    Reads (Reader.untilWord word p) (String.join (items.map text) ++ word) (items.map value)
      rest := by
  have hcount := count_le_length_join hlength items
  rw [← String.length_toList] at hcount
  exact untilUpTo hword hitem items _ (by
    rw [String.toList_append]
    simp only [List.length_append]
    omega)

/-! ## Uniqueness -/

/-- **What a reader makes of a text does not depend on how the text was cut**: two written texts
that begin the same whole text are equal, and so are the values and the rests. -/
theorem unique {s t : String} {a b : α} {rest rest' : List Char} (hs : Reads p s a rest)
    (ht : Reads p t b rest') (h : s.toList ++ rest = t.toList ++ rest') :
    a = b ∧ s = t ∧ rest = rest' := by
  unfold Reads at hs ht
  rw [h, ht, Option.some.injEq, Prod.mk.injEq] at hs
  obtain ⟨rfl, rfl⟩ := hs
  exact ⟨rfl, String.toList_inj.mp (List.append_cancel_right h), rfl⟩

end Reads

end GraphImport

import GraphImport.Proofs.Text.Characters

/-!
# Blanking literals

A scanner that knows string literals, and nothing else of the language: it enters a literal at a
quote, skips the character behind a backslash, and leaves the literal at the next quote. What it
keeps of a text is the structure of the text.

* `Scanner.run`, `Scanner.blank` — where the scanner ends, and what it keeps.
* `Alike` — two texts have the same structure, and no literal is open at their ends.
* `Alike.append`, `Alike.join`, `Alike.intercalate` — texts made of alike parts are alike.
* `Alike.behind`, `Alike.before` — and so are alike texts next to words.
* `QuoteFree` — texts that are all structure.
-/

namespace GraphImport

/-- Where a scanner stands. -/
inductive Scanner where
  /-- Outside of literals. -/
  | outside
  /-- In a literal. -/
  | inside
  /-- In a literal, behind a backslash. -/
  | skipping
deriving DecidableEq

namespace Scanner

/-! ## The scanner -/

/-- Where the scanner stands behind a character. -/
def step : Scanner → Char → Scanner
  | outside, c => if c = '\x27' then inside else outside
  | inside, c => if c = '\\' then skipping else if c = '\x27' then outside else inside
  | skipping, _ => inside

/-- The scanner keeps the character: it is no content of a literal. -/
def keeps : Scanner → Char → Bool
  | outside, _ => true
  | inside, c => c == '\x27'
  | skipping, _ => false

/-- Where the scanner stands behind a text. -/
def run (scanner : Scanner) (text : List Char) : Scanner := text.foldl step scanner

/-- **What the scanner keeps of a text**: all of it but the contents of literals. -/
def blank : Scanner → List Char → List Char
  | _, [] => []
  | scanner, c :: rest =>
    if scanner.keeps c then c :: blank (scanner.step c) rest else blank (scanner.step c) rest

variable {scanner : Scanner}

theorem run_append (s t : List Char) : scanner.run (s ++ t) = (scanner.run s).run t :=
  List.foldl_append

/-- A text is blanked part by part. -/
theorem blank_append (s t : List Char) :
    scanner.blank (s ++ t) = scanner.blank s ++ (scanner.run s).blank t := by
  induction s generalizing scanner with
  | nil => rfl
  | cons c rest ih =>
      have hrun : scanner.run (c :: rest) = (scanner.step c).run rest := rfl
      rw [List.cons_append, blank, blank, hrun, ih]
      split
      · rw [List.cons_append]
      · rfl

/-- Texts that the scanner reads over in one state leave it there. -/
theorem run_join {texts : List String} (h : ∀ text ∈ texts, scanner.run text.toList = scanner) :
    scanner.run (String.join texts).toList = scanner := by
  induction texts with
  | nil => rfl
  | cons text rest ih =>
      rw [String.join_cons, String.toList_append, run_append, h text List.mem_cons_self]
      exact ih fun other hother => h other (List.mem_cons_of_mem _ hother)

/-- Nothing is kept of texts that the scanner reads over and drops. -/
theorem blank_join {texts : List String} (h : ∀ text ∈ texts, scanner.run text.toList = scanner)
    (hblank : ∀ text ∈ texts, scanner.blank text.toList = []) :
    scanner.blank (String.join texts).toList = [] := by
  induction texts with
  | nil => rfl
  | cons text rest ih =>
      rw [String.join_cons, String.toList_append, blank_append, hblank text List.mem_cons_self,
        h text List.mem_cons_self, List.nil_append]
      exact ih (fun other hother => h other (List.mem_cons_of_mem _ hother)) fun other hother =>
        hblank other (List.mem_cons_of_mem _ hother)

/-- In a literal the scanner keeps nothing, and it stays there up to a backslash or a quote. -/
theorem scan_inside {text : List Char} (h : ∀ c ∈ text, c ≠ '\\' ∧ c ≠ '\x27') :
    inside.run text = inside ∧ inside.blank text = [] := by
  induction text with
  | nil => exact ⟨rfl, rfl⟩
  | cons c rest ih =>
      obtain ⟨hbackslash, hquote⟩ := h c List.mem_cons_self
      obtain ⟨hrun, hblank⟩ := ih fun d hd => h d (List.mem_cons_of_mem _ hd)
      have hstep : inside.step c = inside := by
        rw [step, if_neg hbackslash, if_neg hquote]
      have hkeeps : inside.keeps c = false := beq_eq_false_iff_ne.mpr hquote
      have hcons : inside.run (c :: rest) = (inside.step c).run rest := rfl
      rw [hcons, blank, hstep, hkeeps]
      exact ⟨hrun, hblank⟩

end Scanner

/-! ## Alike texts -/

/-- **Two texts are alike**: blanking makes them the same, and no literal is open at their ends. -/
structure Alike (s t : String) : Prop where
  /-- No literal is open at the end of the first text. -/
  left : Scanner.outside.run s.toList = .outside
  /-- No literal is open at the end of the second text. -/
  right : Scanner.outside.run t.toList = .outside
  /-- The scanner keeps the same of both. -/
  blank : Scanner.outside.blank s.toList = Scanner.outside.blank t.toList

/-- No character is a quote. -/
def QuoteFree (s : String) : Prop := ∀ c ∈ s.toList, c ≠ '\x27'

instance : DecidablePred QuoteFree := inferInstanceAs (DecidablePred (Consists (· ≠ '\x27')))

theorem QuoteFree.append {s t : String} (hs : QuoteFree s) (ht : QuoteFree t) :
    QuoteFree (s ++ t) := Consists.append hs ht

namespace Alike

variable {s t u s' t' : String}

theorem symm (h : Alike s t) : Alike t s := ⟨h.right, h.left, h.blank.symm⟩

theorem trans (h : Alike s t) (h' : Alike t u) : Alike s u :=
  ⟨h.left, h'.right, h.blank.trans h'.blank⟩

/-- A text without quotes is alike to itself. -/
theorem of_quoteFree (h : QuoteFree s) : Alike s s := by
  have hrun : ∀ text : List Char, (∀ c ∈ text, c ≠ '\x27') →
      Scanner.outside.run text = .outside := by
    intro text htext
    induction text with
    | nil => rfl
    | cons c rest ih =>
        have hstep : Scanner.outside.step c = .outside := if_neg (htext c List.mem_cons_self)
        have hcons : Scanner.outside.run (c :: rest) = (Scanner.outside.step c).run rest := rfl
        rw [hcons, hstep]
        exact ih fun d hd => htext d (List.mem_cons_of_mem _ hd)
  exact ⟨hrun _ h, hrun _ h, rfl⟩

/-- Alike texts behind alike texts. -/
theorem append (h : Alike s t) (h' : Alike s' t') : Alike (s ++ s') (t ++ t') := by
  refine ⟨?_, ?_, ?_⟩
  · rw [String.toList_append, Scanner.run_append, h.left, h'.left]
  · rw [String.toList_append, Scanner.run_append, h.right, h'.right]
  · rw [String.toList_append, String.toList_append, Scanner.blank_append, Scanner.blank_append,
      h.left, h.right, h.blank, h'.blank]

/-- Alike texts behind a text without quotes. -/
theorem behind {word : String} (hword : QuoteFree word) (h : Alike s t) :
    Alike (word ++ s) (word ++ t) := (of_quoteFree hword).append h

/-- Alike texts in front of a text without quotes. -/
theorem before {word : String} (h : Alike s t) (hword : QuoteFree word) :
    Alike (s ++ word) (t ++ word) := h.append (of_quoteFree hword)

variable {α : Type} {f g : α → String} {items : List α}

/-- Texts that are alike one by one are alike when they are joined. -/
theorem join (h : ∀ item ∈ items, Alike (f item) (g item)) :
    Alike (String.join (items.map f)) (String.join (items.map g)) := by
  induction items with
  | nil => exact ⟨rfl, rfl, rfl⟩
  | cons item rest ih =>
      rw [List.map_cons, List.map_cons, String.join_cons, String.join_cons]
      exact (h item List.mem_cons_self).append
        (ih fun other hother => h other (List.mem_cons_of_mem _ hother))

/-- Texts that are alike one by one are alike with a separator between them. -/
theorem intercalate {separator : String} (hseparator : QuoteFree separator)
    (h : ∀ item ∈ items, Alike (f item) (g item)) :
    Alike (String.intercalate separator (items.map f))
      (String.intercalate separator (items.map g)) := by
  cases items with
  | nil => exact ⟨rfl, rfl, rfl⟩
  | cons item rest =>
      rw [List.map_cons, List.map_cons, intercalate_cons, intercalate_cons, List.map_map,
        List.map_map]
      exact (h item List.mem_cons_self).append (join fun other hother =>
        behind hseparator (h other (List.mem_cons_of_mem _ hother)))

end Alike

end GraphImport

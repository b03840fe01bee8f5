import GraphImport.Proofs.Cypher.Escaping
import GraphImport.Proofs.Decimal.Positional
import GraphImport.Proofs.Property.Leaves

/-!
# Reading literals

Escaped literals can be read back in place: the reader takes exactly the literal off a text and
returns the value, up to the identity of doubles that are no number. So no content of a string or
list can make a literal end early or swallow what follows.

* `Reader.character`, `Reader.quoted` — escaped strings.
* `Reader.number` — integers and doubles, told apart by the point.
* `Reader.value` — all values.
* `Follows` — what may stand behind a literal.
* `Reads.value` — the literal of a value is read back.
* `literal_read_in_place` — nothing else is taken, and no other literal begins the text.
-/

namespace GraphImport

/-! ## What stands behind a literal -/

/-- The text ends here or goes on with a blank, a comma or a closing bracket. -/
def Follows (rest : List Char) : Prop := ∀ c ∈ rest.head?, c = ' ' ∨ c = ',' ∨ c = ']'

/-- A word may stand behind a literal when its first character may. -/
theorem follows_append {word : String} {c : Char} {cs : List Char} (hword : word.toList = c :: cs)
    (hc : c = ' ' ∨ c = ',' ∨ c = ']') (after : List Char) : Follows (word.toList ++ after) :=
  forall_head_append word hword hc after

/-- Behind a literal may stand another one. -/
theorem follows_comma (after : List Char) : Follows (", ".toList ++ after) :=
  follows_append rfl (.inr (.inl rfl)) after

/-- Behind a literal may stand further texts, each behind a comma. -/
theorem Follows.join {γ : Type} {after : List Char} (h : Follows after) (items : List γ)
    (text : γ → String) :
    Follows ((String.join (items.map fun item => ", " ++ text item)).toList ++ after) := by
  cases items with
  | nil => exact h
  | cons item items =>
      rw [List.map_cons, String.join_cons, String.append_assoc, String.toList_append,
        List.append_assoc]
      exact follows_comma _

/-- What stands behind a literal is no digit. -/
theorem Follows.not_isDigit {rest : List Char} (h : Follows rest) :
    ∀ c ∈ rest.head?, c.isDigit = false := by
  intro c hc
  rcases h c hc with rfl | rfl | rfl <;> rfl

/-- A literal does not go on behind its end. -/
theorem Follows.stops {rest : List Char} (h : Follows rest) {word : String} {c : Char}
    {cs : List Char} (hword : word.toList = c :: cs) (hc : c ≠ ' ' ∧ c ≠ ',' ∧ c ≠ ']') :
    Stops word rest := by
  refine stops_of_head hword fun d hd heq => ?_
  subst heq
  rcases h d hd with h | h | h
  · exact hc.1 h
  · exact hc.2.1 h
  · exact hc.2.2 h

/-- **An escaped character** is the character itself, which is neither a backslash nor a quote, or
it is a backslash, some character and no other backslash or quote. -/
theorem Cypher.escapedChar_cases (c : Char) :
    ((escapedChar c).toList = [c] ∧ c ≠ '\\' ∧ c ≠ '\x27') ∨
      ∃ d ds, (escapedChar c).toList = '\\' :: d :: ds ∧ ∀ e ∈ ds, e ≠ '\\' ∧ e ≠ '\x27' := by
  have hplain : ∀ ds : List Char, (ds.all fun e => e != '\\' && e != '\x27') = true →
      ∀ e ∈ ds, e ≠ '\\' ∧ e ≠ '\x27' := by
    intro ds hall e he
    simpa using List.all_eq_true.mp hall e he
  unfold escapedChar
  split_ifs with hbackslash hquote
  case neg => exact .inl ⟨String.toList_singleton c, hbackslash, hquote⟩
  all_goals exact .inr ⟨_, _, rfl, hplain _ rfl⟩

/-- A list is written item by item. -/
theorem Cypher.literal_list (mode : StringMode) (items : List Value) :
    literal mode (.list items) =
      "[" ++ String.intercalate ", " (items.map (literal mode)) ++ "]" := by
  have hitems : ∀ items : List Value, literals mode items = items.map (literal mode) := by
    intro items
    induction items with
    | nil => rfl
    | cons item items ih => rw [literals, ih, List.map_cons]
  rw [literal, hitems]

namespace Reader

open Binary64 Decimal

/-! ## Readers -/

/-- Takes a character of an escaped string. -/
def character : Reader Char
  | '\\' :: '\\' :: rest => some ('\\', rest)
  | '\\' :: '\x27' :: rest => some ('\x27', rest)
  | '\\' :: '"' :: rest => some ('"', rest)
  | '\\' :: 'n' :: rest => some ('\n', rest)
  | '\\' :: 'r' :: rest => some ('\r', rest)
  | '\\' :: 't' :: rest => some ('\t', rest)
  | '\\' :: 'u' :: '0' :: '0' :: '0' :: '0' :: rest => some ('\x00', rest)
  | '\\' :: _ => none
  | c :: rest => some (c, rest)
  | [] => none

/-- Takes an escaped string with its quotes. -/
def quoted : Reader String := do
  expect "'"
  let characters ← untilWord "'" character
  return String.ofList characters

/-- Takes a minus sign, if there is one. -/
def sign : Reader Bool := do
  let found ← optional "-" (pure ())
  return found.isSome

/-- Takes a number: with a point it is a double, and a division behind the point tells what is no
number or infinite. -/
def number : Reader Value := do
  let negative ← sign
  let whole ← span Char.isDigit
  match ← optional "." (span Char.isDigit) with
  | none =>
    let n := Nat.ofDigitChars 10 whole.toList 0
    return .int (if negative then -n else n)
  | some fraction =>
    match ← optional "/0.0" (pure ()) with
    | none => return .double (ofMagnitude negative (magnitudeOfDigits whole fraction))
    | some () =>
      if whole = "0" then return .double nan
      else return .double (ofMagnitude negative infiniteMagnitude)

/-- Takes a list of what the reader takes. -/
def list {α : Type} (p : Reader α) : Reader (List α) := do
  expect "["
  match ← optional "]" (pure ()) with
  | some () => return []
  | none =>
    let first ← p
    let others ← many ", " p
    expect "]"
    return first :: others

/-- Takes a value in which lists are nested less deep than `depth`; the first character tells which
kind of value it is. -/
def valueUpTo : (depth : Nat) → Reader Value
  | 0 => fun _ => none
  | depth + 1 => fun text =>
    match text with
    | 'n' :: _ => (do expect "null"; return Value.null) text
    | 't' :: _ => (do expect "true"; return Value.bool true) text
    | 'f' :: _ => (do expect "false"; return Value.bool false) text
    | '\x27' :: _ => (do return Value.string (← quoted)) text
    | '[' :: _ => (do return Value.list (← list (valueUpTo depth))) text
    | _ => number text

/-- Takes a value. -/
def value : Reader Value := fun text => valueUpTo (text.length + 1) text

end Reader

namespace Reads

open Binary64 Decimal

variable {rest : List Char}

/-! ## Strings -/

/-- An escaped character is read back. -/
theorem character (c : Char) (rest : List Char) :
    Reads Reader.character (Cypher.escapedChar c) c rest := by
  unfold Cypher.escapedChar
  split_ifs with h₁ h₂ h₃ h₄ h₅ h₆ h₇
  · rw [h₁]; rfl
  · rw [h₂]; rfl
  · rw [h₃]; rfl
  · rw [h₄]; rfl
  · rw [h₅]; rfl
  · rw [h₆]; rfl
  · rw [h₇]; rfl
  · unfold Reads
    rw [String.toList_singleton, List.singleton_append]
    unfold Reader.character
    split <;> simp_all

/-- An escaped character does not begin with a quote. -/
theorem escapedChar_head (c : Char) :
    ∃ d ds, (Cypher.escapedChar c).toList = d :: ds ∧ d ≠ '\x27' := by
  rcases Cypher.escapedChar_cases c with ⟨htext, -, hquote⟩ | ⟨d, ds, htext, -⟩
  · exact ⟨c, [], htext, hquote⟩
  · exact ⟨'\\', d :: ds, htext, by decide⟩

/-- The string is written character by character. -/
theorem quoteEscaped_eq (s : String) :
    Cypher.quoteEscaped s =
      "'" ++ (String.join (s.toList.map Cypher.escapedChar) ++ "'") := by
  unfold Cypher.quoteEscaped Cypher.quotePlain
  rw [Cypher.escape_eq_join, String.append_assoc]

/-- **Escaped strings are read back**, whatever they contain and whatever follows. -/
theorem quoted (s : String) (rest : List Char) :
    Reads Reader.quoted (Cypher.quoteEscaped s) s rest := by
  have hne : ∀ c : Char, Cypher.escapedChar c ≠ "" := by
    intro c h
    obtain ⟨d, ds, hd, -⟩ := escapedChar_head c
    rw [h] at hd
    exact absurd hd (by simp)
  have hstops : ∀ (c : Char) (after : List Char),
      Stops "'" ((Cypher.escapedChar c).toList ++ after) := by
    intro c after
    obtain ⟨d, ds, hd, hquote⟩ := escapedChar_head c
    exact stops_of_head rfl (forall_head_append _ hd hquote after)
  have hbody : Reads (Reader.untilWord "'" Reader.character)
      (String.join (s.toList.map Cypher.escapedChar) ++ "'") s.toList rest := by
    simpa only [List.map_id'] using untilWord hne hstops character s.toList
  have h : Reads Reader.quoted ("'" ++ (String.join (s.toList.map Cypher.escapedChar) ++ "'"))
      (String.ofList s.toList) rest := (expect "'" _).bind hbody.bind_pure
  rwa [quoteEscaped_eq, String.ofList_toList] at *

/-! ## Numbers -/

/-- A sign is read back when no other one follows. -/
theorem sign (negative : Bool) (h : Stops "-" rest) :
    Reads Reader.sign (if negative then "-" else "") negative rest := by
  cases negative with
  | true =>
      have hminus := (optional_some "-" (pure () rest)).bind_pure (g := Option.isSome)
      rwa [String.append_empty] at hminus
  | false => exact (optional_none (Pure.pure ()) h).bind_pure (g := Option.isSome)

/-- Digits begin with a digit. -/
theorem isDigits_head {whole : String} (hne : whole ≠ "") (hwhole : IsDigits whole) :
    ∃ c cs, whole.toList = c :: cs ∧ c.isDigit = true := by
  cases hlist : whole.toList with
  | nil => exact absurd (String.toList_eq_nil_iff.mp hlist) hne
  | cons c cs => exact ⟨c, cs, rfl, hwhole c (hlist ▸ List.mem_cons_self)⟩

/-- Digits do not go on with another character. -/
theorem isDigits_stops {whole word : String} {c : Char} {cs : List Char} (hne : whole ≠ "")
    (hwhole : IsDigits whole) (hword : word.toList = c :: cs) (hc : c.isDigit = false)
    (after : List Char) : Stops word (whole.toList ++ after) := by
  obtain ⟨d, ds, hlist, hd⟩ := isDigits_head hne hwhole
  have hdc : d ≠ c := by
    rintro rfl
    rw [hd] at hc
    exact Bool.noConfusion hc
  exact stops_append hword hlist hdc after

/-- Digits without a point are an integer. -/
theorem number_whole {negative : Bool} {s : String} (n : Nat)
    (hsign : Reads Reader.sign s negative ((toString n).toList ++ rest)) (h : Follows rest) :
    Reads Reader.number (s ++ toString n) (.int (if negative then -n else n)) rest := by
  have hwhole := span (isDigits_toString n) h.not_isDigit
  have hpoint := optional_none (Reader.span Char.isDigit)
    (h.stops (show ".".toList = ['.'] from rfl) (by decide))
  have hvalue := pure (Value.int (if negative then -n else n)) rest
  unfold Reader.number
  refine hsign.bind (hwhole.bind_right (hpoint.bind_right ?_))
  simp only [ofDigitChars_toString]
  exact hvalue

/-- Digits around a point are a double. -/
theorem number_point {negative : Bool} {s whole fraction : String}
    (hsign : Reads Reader.sign s negative ((whole ++ ("." ++ fraction)).toList ++ rest))
    (hwhole : IsDigits whole) (hfraction : IsDigits fraction) (h : Follows rest) :
    Reads Reader.number (s ++ (whole ++ ("." ++ fraction)))
      (.double (ofMagnitude negative (magnitudeOfDigits whole fraction))) rest := by
  have hdigits : Reads (Reader.span Char.isDigit) whole whole
      (("." ++ fraction).toList ++ rest) := by
    refine span hwhole ?_
    rw [String.toList_append, List.append_assoc]
    exact forall_head_append "." rfl (by decide) _
  have hpoint := optional_some "." (span hfraction h.not_isDigit)
  have hdivision := optional_none (Pure.pure () : Reader Unit)
    (h.stops (show "/0.0".toList = ['/', '0', '.', '0'] from rfl) (by decide))
  unfold Reader.number
  exact hsign.bind (hdigits.bind (hpoint.bind_right (hdivision.bind_right (pure _ _))))

/-- A division by zero stands for what is no number or infinite. -/
theorem number_division {negative : Bool} {s : String} (whole : String)
    (hsign : Reads Reader.sign s negative ((whole ++ ("." ++ "0" ++ "/0.0")).toList ++ rest))
    (hwhole : IsDigits whole) :
    Reads Reader.number (s ++ (whole ++ ("." ++ "0" ++ "/0.0")))
      (.double (if whole = "0" then nan else ofMagnitude negative infiniteMagnitude)) rest := by
  have hdigits : Reads (Reader.span Char.isDigit) whole whole
      (("." ++ "0" ++ "/0.0").toList ++ rest) :=
    span hwhole (forall_head_append ("." ++ "0" ++ "/0.0") rfl (by decide) rest)
  have hzero : Reads (Reader.span Char.isDigit) "0" "0" ("/0.0".toList ++ rest) :=
    span (isDigits_toString 0) (forall_head_append "/0.0" rfl (by decide) rest)
  have hpoint := optional_some "." hzero
  have hdivision := optional_some "/0.0" (pure () rest)
  rw [String.append_empty] at hdivision
  unfold Reader.number
  refine hsign.bind (hdigits.bind (hpoint.bind (hdivision.bind_right ?_)))
  by_cases hzero : whole = "0"
  · simp only [hzero, if_true]
    exact pure _ _
  · simp only [hzero, if_false]
    exact pure _ _

/-- **Integers are read back.** -/
theorem number_int (n : Int) (h : Follows rest) :
    Reads Reader.number (toString n) (.int n) rest := by
  have hminus : ∀ m : Nat, Stops "-" ((toString m).toList ++ rest) := fun m =>
    isDigits_stops (toString_ne_empty m) (isDigits_toString m) (show "-".toList = ['-'] from rfl)
      rfl rest
  cases n with
  | ofNat m =>
      have hread := number_whole m (sign false (hminus m)) h
      rw [if_neg Bool.false_ne_true, if_neg Bool.false_ne_true, String.empty_append] at hread
      exact hread
  | negSucc m =>
      have hread := number_whole (m + 1) (sign true (hminus (m + 1))) h
      rw [if_pos rfl, if_pos rfl] at hread
      exact hread

/-- **Doubles are read back**, all that are no number as one. -/
theorem number_double (x : Binary64) (h : Follows rest) :
    Reads Reader.number (Cypher.doubleText x) (.double x.identifyNaN) rest := by
  have hminus : ∀ {whole : String}, whole ≠ "" → IsDigits whole → ∀ after,
      Stops "-" (whole.toList ++ after) := fun hne hdigits after =>
    isDigits_stops hne hdigits (show "-".toList = ['-'] from rfl) rfl after
  unfold Cypher.doubleText Binary64.identifyNaN
  -- What is no number and what is infinite are written as divisions by zero.
  by_cases hnan : x.isNaN = true
  · have hsign : Reads Reader.sign "" false (("0" ++ ("." ++ "0" ++ "/0.0")).toList ++ rest) :=
      sign false (hminus (by decide) (isDigits_toString 0) _)
    have hread := number_division "0" hsign (isDigits_toString 0)
    rw [if_pos rfl, String.empty_append] at hread
    rw [if_pos hnan, if_pos hnan]
    exact hread
  · rw [if_neg hnan, if_neg hnan]
    by_cases hinf : x.isInfinite = true
    · have hsign : Reads Reader.sign x.signText x.isNegative
          (("1" ++ ("." ++ "0" ++ "/0.0")).toList ++ rest) :=
        sign x.isNegative (hminus (by decide) (isDigits_toString 1) _)
      have hone : ¬"1" = "0" := by decide
      have hmag : x.magnitude = infiniteMagnitude := of_decide_eq_true hinf
      have hread := number_division "1" hsign (isDigits_toString 1)
      rw [if_neg hone, ← hmag, ofMagnitude_magnitude] at hread
      rw [if_pos hinf]
      exact hread
    · have hfinite : x.isFinite = true := by
        unfold isNaN isInfinite at *
        unfold isFinite
        simp only [decide_eq_true_eq] at *
        omega
      obtain ⟨whole, fraction, htext, hne, hwhole, hfraction, hvalue⟩ :=
        exists_positional (shortest .up x)
      have hsign : Reads Reader.sign x.signText x.isNegative
          ((whole ++ ("." ++ fraction)).toList ++ rest) := by
        refine sign x.isNegative ?_
        rw [String.toList_append, List.append_assoc]
        exact hminus hne hwhole _
      have hread := number_point hsign hwhole hfraction h
      rw [hvalue, ofMagnitude_nearest_shortest .up hfinite] at hread
      rw [if_neg hinf, htext, String.append_assoc]
      exact hread

/-! ## Values -/

/-- Lists are read back when their items are, in front of a comma and of the closing bracket. -/
theorem list {α γ : Type} {p : Reader α} {text : γ → String} {value : γ → α} (items : List γ)
    (hstops : ∀ item ∈ items, ∀ after, Stops "]" ((text item).toList ++ after))
    (hitems : ∀ item ∈ items, ∀ after, Follows after → Reads p (text item) (value item) after) :
    Reads (Reader.list p) ("[" ++ String.intercalate ", " (items.map text) ++ "]")
      (items.map value) rest := by
  have hend : Reads (Reader.expect "]") "]" () rest := expect "]" rest
  unfold Reader.list
  rw [String.append_assoc]
  refine (expect "[" _).bind ?_
  cases items with
  | nil =>
      have hclose := optional_some "]" (pure () rest)
      rw [String.append_empty] at hclose
      exact hclose.bind_right (pure _ _)
  | cons first others =>
      have hclosing : Follows ("]".toList ++ rest) := follows_append rfl (.inr (.inr rfl)) rest
      have hmore : Reads (Reader.many ", " p)
          (String.join (others.map fun item => ", " ++ text item)) (others.map value)
          ("]".toList ++ rest) :=
        many (by decide) follows_comma hclosing (stops_append rfl rfl (by decide) rest)
          fun item h => hitems item (List.mem_cons_of_mem _ h)
      have hfirst := hitems first List.mem_cons_self _ (hclosing.join others text)
      have hnone := optional_none (Pure.pure () : Reader Unit)
        (hstops first List.mem_cons_self
          ((String.join (others.map fun item => ", " ++ text item)).toList ++
            ("]".toList ++ rest)))
      rw [List.map_cons, intercalate_cons, List.map_map, String.append_assoc]
      rw [← List.append_assoc, ← List.append_assoc, ← String.toList_append, ← String.toList_append,
        String.append_assoc] at hnone
      rw [← List.append_assoc, ← String.toList_append] at hfirst
      exact hnone.bind_left (hfirst.bind (hmore.bind (hend.bind_right (pure _ _))))

/-- The text begins like a number. -/
def BeginsNumber (s : String) : Prop := ∃ c cs, s.toList = c :: cs ∧ (c = '-' ∨ c.isDigit = true)

/-- A number may begin with its sign. -/
theorem beginsNumber_append (negative : Bool) {s t : String} (hne : s ≠ "") (hs : IsDigits s) :
    BeginsNumber ((if negative then "-" else "") ++ (s ++ t)) := by
  cases negative with
  | true =>
      refine ⟨'-', (s ++ t).toList, ?_, .inl rfl⟩
      rw [if_pos rfl, String.toList_append]
      rfl
  | false =>
      obtain ⟨c, cs, hlist, hc⟩ := isDigits_head hne hs
      refine ⟨c, cs ++ t.toList, ?_, .inr hc⟩
      rw [if_neg Bool.false_ne_true, String.empty_append, String.toList_append, hlist,
        List.cons_append]

/-- Integers begin like numbers. -/
theorem beginsNumber_int (n : Int) : BeginsNumber (toString n) := by
  cases n with
  | ofNat m =>
      have h := beginsNumber_append false (t := "") (toString_ne_empty m) (isDigits_toString m)
      rwa [if_neg Bool.false_ne_true, String.empty_append, String.append_empty] at h
  | negSucc m =>
      have h := beginsNumber_append true (t := "") (toString_ne_empty (m + 1))
        (isDigits_toString (m + 1))
      rwa [if_pos rfl, String.append_empty] at h

/-- Doubles begin like numbers. -/
theorem beginsNumber_double (x : Binary64) : BeginsNumber (Cypher.doubleText x) := by
  unfold Cypher.doubleText
  split_ifs
  · exact ⟨'0', _, rfl, .inr rfl⟩
  · have hone : BeginsNumber (x.signText ++ ("1" ++ ".0/0.0")) :=
      beginsNumber_append x.isNegative (by decide) (isDigits_toString 1)
    exact hone
  · obtain ⟨whole, fraction, htext, hne, hwhole, -, -⟩ := exists_positional (shortest .up x)
    rw [htext, String.append_assoc]
    exact beginsNumber_append x.isNegative hne hwhole

/-- The first character of a number tells that it is one. -/
theorem valueUpTo_eq_number (depth : Nat) {c : Char} (cs : List Char)
    (hc : c = '-' ∨ c.isDigit = true) :
    Reader.valueUpTo (depth + 1) (c :: cs) = Reader.number (c :: cs) := by
  have hne : ∀ {d : Char} {ds : List Char}, c :: cs = d :: ds → ¬(d = '-' ∨ d.isDigit = true) →
      False := by
    intro d ds heq hd
    rw [List.cons.injEq] at heq
    exact hd (heq.1 ▸ hc)
  unfold Reader.valueUpTo
  split
  case h_6 => rfl
  all_goals
    rename_i heq
    exact (hne heq (by decide)).elim

/-- What begins like a number is read as one. -/
theorem valueUpTo_of_beginsNumber {s : String} (hs : BeginsNumber s) (depth : Nat) {v : Value}
    (h : Reads Reader.number s v rest) : Reads (Reader.valueUpTo (depth + 1)) s v rest := by
  obtain ⟨c, cs, hlist, hc⟩ := hs
  unfold Reads at *
  rw [hlist, List.cons_append, valueUpTo_eq_number depth _ hc, ← List.cons_append, ← hlist]
  exact h

/-- No literal begins with a closing bracket. -/
theorem literal_stops (v : Value) (after : List Char) :
    Stops "]" ((Cypher.literal .escaped v).toList ++ after) := by
  have hhead : ∃ c cs, (Cypher.literal .escaped v).toList = c :: cs ∧ c ≠ ']' := by
    have hnumber : ∀ {s : String}, BeginsNumber s → ∃ c cs, s.toList = c :: cs ∧ c ≠ ']' := by
      rintro s ⟨c, cs, hlist, hc⟩
      refine ⟨c, cs, hlist, ?_⟩
      rintro rfl
      revert hc
      decide
    cases v with
    | null => exact ⟨'n', _, rfl, by decide⟩
    | bool b => cases b <;> exact ⟨_, _, rfl, by decide⟩
    | int n => exact hnumber (beginsNumber_int n)
    | double x => exact hnumber (beginsNumber_double x)
    | string s =>
        rw [Cypher.literal, Cypher.quote, quoteEscaped_eq, String.toList_append]
        exact ⟨'\x27', _, rfl, by decide⟩
    | list items =>
        rw [Cypher.literal, String.append_assoc, String.toList_append]
        exact ⟨'[', _, rfl, by decide⟩
  obtain ⟨c, cs, hlist, hc⟩ := hhead
  exact stops_of_head rfl (forall_head_append _ hlist hc after)

/-- **Literals are read back** by a reader for values that may be nested as deep as the literal is
long. -/
theorem valueUpTo (v : Value) :
    ∀ {depth : Nat} {rest : List Char}, (Cypher.literal .escaped v).length < depth → Follows rest →
      Reads (Reader.valueUpTo depth) (Cypher.literal .escaped v) v.identifyNaN rest := by
  induction v using Value.induct with
  | leaf v hv =>
      intro depth rest hdepth h
      obtain ⟨depth, rfl⟩ := Nat.exists_eq_add_one_of_ne_zero (Nat.ne_zero_of_lt hdepth)
      cases v with
      | null => exact bind_right (expect "null" rest) (pure _ _)
      | bool b =>
          cases b with
          | true => exact bind_right (expect "true" rest) (pure _ _)
          | false => exact bind_right (expect "false" rest) (pure _ _)
      | int n => exact valueUpTo_of_beginsNumber (beginsNumber_int n) depth (number_int n h)
      | double x =>
          exact valueUpTo_of_beginsNumber (beginsNumber_double x) depth (number_double x h)
      | string s =>
          have hread : Reads (do return Value.string (← Reader.quoted)) (Cypher.quoteEscaped s)
              (.string s) rest := (quoted s rest).bind_pure
          have htext : (Cypher.quoteEscaped s).toList ++ rest =
              '\x27' :: ((String.join (s.toList.map Cypher.escapedChar) ++ "'").toList ++ rest) := by
            rw [quoteEscaped_eq, String.toList_append]
            rfl
          unfold Reads at *
          rw [htext] at hread
          rw [Cypher.literal, Cypher.quote, htext]
          exact hread
      | list items => exact absurd hv Bool.noConfusion
  | list items ih =>
      intro depth rest hdepth h
      obtain ⟨depth, rfl⟩ := Nat.exists_eq_add_one_of_ne_zero (Nat.ne_zero_of_lt hdepth)
      have hitems : ∀ item ∈ items, ∀ after, Follows after →
          Reads (Reader.valueUpTo depth) (Cypher.literal .escaped item) item.identifyNaN after := by
        intro item hitem after hafter
        -- An item is shorter than its list by the brackets at least, so the depth suffices.
        have hle : (Cypher.literal .escaped item).length ≤
            (String.intercalate ", " (items.map (Cypher.literal .escaped))).length :=
          length_le_intercalate (List.mem_map_of_mem hitem)
        have hbracket : "]".length = 1 := rfl
        rw [Cypher.literal_list, String.length_append, String.length_append, hbracket] at hdepth
        have hlt : (Cypher.literal .escaped item).length < depth := by omega
        exact ih item hitem hlt hafter
      have hread : Reads (do return Value.list (← Reader.list (Reader.valueUpTo depth))) _
          (.list (items.map Value.identifyNaN)) rest :=
        (list items (fun item _ => literal_stops item) hitems).bind_pure
      have htext : ∀ inner : String, ("[" ++ inner ++ "]").toList ++ rest =
          '[' :: (inner.toList ++ ("]".toList ++ rest)) := by
        intro inner
        rw [String.toList_append, String.toList_append, List.append_assoc, List.append_assoc]
        rfl
      unfold Reads at *
      rw [htext] at hread
      rw [Cypher.literal_list, htext, Value.identifyNaN_list]
      exact hread

/-- **Literals are read back**: the reader takes exactly the literal off the text and returns the
value, all doubles that are no number as one. -/
theorem value (v : Value) (h : Follows rest) :
    Reads Reader.value (Cypher.literal .escaped v) v.identifyNaN rest := by
  have hlength : (Cypher.literal .escaped v).length <
      ((Cypher.literal .escaped v).toList ++ rest).length + 1 := by
    rw [List.length_append, String.length_toList]
    omega
  exact valueUpTo v hlength h

end Reads

/-! ## Literals in place -/

/-- **Literals are read back in place.** In front of a text that may stand behind it, the reader
takes exactly the literal and returns the value. A text begins with one literal only, whatever
strings and lists contain; and no integer is written like a double. -/
theorem literal_read_in_place (v : Value) {rest : List Char} (h : Follows rest) :
    Reader.value ((Cypher.literal .escaped v).toList ++ rest) = some (v.identifyNaN, rest) ∧
      (∀ (w : Value) {after : List Char}, Follows after →
        (Cypher.literal .escaped w).toList ++ after = (Cypher.literal .escaped v).toList ++ rest →
          w.identifyNaN = v.identifyNaN ∧ Cypher.literal .escaped w = Cypher.literal .escaped v ∧
            after = rest) ∧
      ∀ (n : Int) (x : Binary64),
        Cypher.literal .escaped (.int n) ≠ Cypher.literal .escaped (.double x) := by
  refine ⟨Reads.value v h, fun w after hafter htext => ?_, fun n x htext => ?_⟩
  · exact (Reads.value w hafter).unique (Reads.value v h) htext
  · have hend : Follows [] := fun _ hc => nomatch hc
    have hvalues := ((Reads.value (.int n) hend).unique (Reads.value (.double x) hend)
      (congrArg (·.toList ++ []) htext)).1
    exact Value.noConfusion hvalues

/-- Neither quotes nor brackets in a string end a list, and the text behind the list is left. -/
theorem literal_read_in_place_brackets :
    Follows ", 'b']".toList ∧
      Reader.value "['a\\', ]\\\\', 0.0/0.0, [-5]], 'b']".toList =
        some (.list [.string "a', ]\\", .double .nan, .list [.int (-5)]], ", 'b']".toList) := by
  have hfollows : Follows ", 'b']".toList := follows_comma "'b']".toList
  have hread := (literal_read_in_place
    (.list [.string "a', ]\\", .double ⟨0xfff8000000000001⟩, .list [.int (-5)]]) hfollows).1
  have htext : Cypher.literal .escaped
        (.list [.string "a', ]\\", .double ⟨0xfff8000000000001⟩, .list [.int (-5)]]) =
      "['a\\', ]\\\\', 0.0/0.0, [-5]]" := by decide +kernel
  rw [htext] at hread
  exact ⟨hfollows, hread⟩

end GraphImport

import FluentGen.Json.Printer
import FluentGen.Json.Reader
import FluentGen.Proofs.Numerals
import Mathlib.Data.List.DropRight
import Mathlib.Tactic.IntervalCases
/-!
# Printed documents are read back

The text of a document, written with a line for each item and member, reads as that document. The
tokens come first, each with the text that may follow it: a string ends by itself, while a number
goes on as long as it can. Containers then go by induction on the document, under a bound that the
length of the text always meets.

## Main statements
* `readString_escapeChar`: every string survives its escapes.
* `readNumber_printNumber`: every number is read as it is written.
* `IsPrintable.readsBack`: the text of a value is read back wherever it stands.
* `ofText_pretty`: the text of a whole document is read back.
-/
namespace FluentGen.Json

/-! ## Blanks -/

theorem skipBlanks_cons {c : Char} (text : List Char) (h : c ∉ [' ', '\n', '\t', '\r']) :
    skipBlanks (c :: text) = c :: text := by
  simp only [List.mem_cons, List.not_mem_nil, or_false, not_or] at h
  simp [skipBlanks, h]

theorem skipBlanks_newLine (level : Nat) (text : List Char) :
    skipBlanks ((newLine level).toList ++ text) = skipBlanks text := by
  have blank : ∀ c ∈ (newLine level).toList,
      (c == ' ' || c == '\n' || c == '\t' || c == '\r') = true := by
    intro c mem
    rw [newLine, String.toList_ofList, List.mem_cons, List.mem_replicate] at mem
    rcases mem with rfl | ⟨-, rfl⟩ <;> rfl
  exact List.dropWhile_append_of_pos blank

/-! ## Strings -/

theorem hexUnit?_of_lt : ∀ code < 0x20,
    hexUnit? '0' '0' (Nat.digitChar (code / 16)) (Nat.digitChar (code % 16)) =
      some (.scalar (Char.ofNat code)) := by
  decide

theorem readUnits_cons {c : Char} (text : List Char) (quote : c ≠ '"') (backslash : c ≠ '\\')
    (printable : 0x20 ≤ c.toNat) :
    readUnits (c :: text) =
      (readUnits text).map fun (units, after) => (.scalar c :: units, after) := by
  have large : ¬c.toNat < 0x20 := by omega
  rw [readUnits.eq_def]
  split <;> grind

theorem readUnits_escapeChar (c : Char) (text : List Char) :
    readUnits (escapeChar c ++ text) =
      (readUnits text).map fun (units, after) => (.scalar c :: units, after) := by
  unfold escapeChar
  split
  case h_8 quote backslash _ _ _ _ _ =>
    split
    case isTrue control =>
      have unit := hexUnit?_of_lt c.toNat control
      rw [Char.ofNat_toNat] at unit
      simp only [List.cons_append, List.nil_append, readUnits, unit, Option.bind_some]
    case isFalse printable =>
      exact readUnits_cons text (by simpa using quote) (by simpa using backslash) (by omega)
  all_goals simp [readUnits, shortEscape?]

theorem readUnits_flatMap_escapeChar (chars after : List Char) :
    readUnits (chars.flatMap escapeChar ++ '"' :: after) =
      some (chars.map .scalar, after) := by
  induction chars with
  | nil => simp [readUnits]
  | cons c chars ih => simp [readUnits_escapeChar, ih]

theorem joinSurrogates_map_scalar (chars : List Char) :
    joinSurrogates (chars.map .scalar) = some chars := by
  induction chars with
  | nil => rfl
  | cons c chars ih => simp [joinSurrogates, ih]

theorem readString_escapeChar (text : String) (after : List Char) :
    readString (text.toList.flatMap escapeChar ++ '"' :: after) = some (.text text, after) := by
  simp [readString, readUnits_flatMap_escapeChar, joinSurrogates_map_scalar, Json.text]

/-! ## Numbers -/

/-- What follows does not continue a number. -/
def EndsNumber (after : List Char) : Prop :=
  ∀ c ∈ after.head?, c.isDigit = false ∧ c ∉ ['.', 'e', 'E']

theorem spanDigits_append {digits after : List Char} (h : ∀ c ∈ digits, c.isDigit)
    (stop : ∀ c ∈ after.head?, c.isDigit = false) :
    spanDigits (digits ++ after) = (digits, after) := by
  rw [spanDigits, List.takeWhile_append_of_pos h, List.dropWhile_append_of_pos h]
  cases after with
  | nil => simp
  | cons c after =>
    have : c.isDigit = false := stop c rfl
    simp [this]

theorem spanDigits_toDigits (n : Nat) {after : List Char}
    (stop : ∀ c ∈ after.head?, c.isDigit = false) :
    spanDigits (Nat.toDigits 10 n ++ after) = (Nat.toDigits 10 n, after) := by
  refine spanDigits_append (fun c mem => ?_) stop
  exact Nat.isDigit_of_mem_toDigits (by decide) (by decide) mem

theorem exists_toDigits_eq_cons (n : Nat) :
    ∃ digit digits, Nat.toDigits 10 n = digit :: digits ∧ digit.isDigit = true := by
  have nonempty : Nat.toDigits 10 n ≠ [] := Nat.toDigits_ne_nil
  obtain ⟨digit, digits, split⟩ := List.exists_cons_of_ne_nil nonempty
  exact ⟨digit, digits, split,
    Nat.isDigit_of_mem_toDigits (by decide) (by decide) (split ▸ List.mem_cons_self)⟩

theorem head?_toDigits_ne_zero {n : Nat} (h : 0 < n) : (Nat.toDigits 10 n).head? ≠ some '0' := by
  induction n using Nat.strongRecOn with
  | ind n ih =>
    by_cases small : n < 10
    · rw [Nat.toDigits_of_lt_base small]
      interval_cases n <;> decide
    · have digits := Nat.toDigits_of_base_le (b := 10) (by decide) (by omega : 10 ≤ n)
      have earlier := ih (n / 10) (by omega) (by omega)
      rw [digits, List.head?_append_of_ne_nil _ Nat.toDigits_ne_nil]
      exact earlier

theorem readInteger_toDigits (n : Nat) {after : List Char}
    (stop : ∀ c ∈ after.head?, c.isDigit = false) :
    readInteger (Nat.toDigits 10 n ++ after) = some (n, after) := by
  have span := spanDigits_toDigits n stop
  have value : Nat.ofDigitChars 10 (Nat.toDigits 10 n) 0 = n := Nat.ofDigitChars_ten_toDigits
  by_cases zero : n = 0
  · subst zero
    rw [readInteger, span]
    rfl
  · have first := head?_toDigits_ne_zero (Nat.pos_of_ne_zero zero)
    have some_digit : Nat.toDigits 10 n ≠ [] := Nat.toDigits_ne_nil
    rw [readInteger, span]
    split <;> grind

theorem readFraction_append {digits after : List Char} (h : ∀ c ∈ digits, c.isDigit)
    (stop : ∀ c ∈ after.head?, c.isDigit = false ∧ c ≠ '.') :
    readFraction ((if digits.isEmpty then [] else '.' :: digits) ++ after) =
      some (digits, after) := by
  have span := spanDigits_append h fun c mem => (stop c mem).1
  cases digits with
  | nil =>
    cases after with
    | nil => rfl
    | cons c after =>
      have point : c ≠ '.' := (stop c rfl).2
      simp [readFraction, point]
  | cons digit digits =>
    rw [List.cons_append] at span
    simp [readFraction, span]

theorem readExponentDigits_toDigits (negative : Bool) (n : Nat) {after : List Char}
    (stop : ∀ c ∈ after.head?, c.isDigit = false) :
    readExponentDigits negative (Nat.toDigits 10 n ++ after) =
      some (some (if negative then -(n : Int) else n), after) := by
  have span := spanDigits_toDigits n stop
  have value : Nat.ofDigitChars 10 (Nat.toDigits 10 n) 0 = n := Nat.ofDigitChars_ten_toDigits
  have some_digit : Nat.toDigits 10 n ≠ [] := Nat.toDigits_ne_nil
  rw [readExponentDigits, span]
  split <;> grind

theorem toList_toString_int (n : Int) :
    (toString n).toList = (if n < 0 then ['-'] else []) ++ Nat.toDigits 10 n.natAbs := by
  cases n with
  | ofNat n =>
    have digits : (toString (Int.ofNat n)).toList = Nat.toDigits 10 n := String.toList_ofList
    have sign : ¬Int.ofNat n < 0 := by simp
    rw [digits, if_neg sign]
    rfl
  | negSucc n =>
    have digits : toString (Int.negSucc n) = "-" ++ toString (n + 1) := rfl
    simp [digits]

theorem readExponent_none {after : List Char} (stop : EndsNumber after) :
    readExponent after = some (none, after) := by
  cases after with
  | nil => rfl
  | cons c after =>
    obtain ⟨-, letters⟩ := stop c rfl
    simp only [List.mem_cons, not_or] at letters
    simp [readExponent, letters]

theorem readExponent_some (n : Int) {after : List Char} (stop : EndsNumber after) :
    readExponent ('e' :: ((toString n).toList ++ after)) = some (some n, after) := by
  have parsed := fun negative => readExponentDigits_toDigits negative n.natAbs
    fun c mem => (stop c mem).1
  rw [toList_toString_int]
  by_cases negative : n < 0
  · have value : -(n.natAbs : Int) = n := by omega
    simp only [if_pos negative, List.cons_append, List.nil_append, readExponent, parsed true, value]
    rfl
  · have value : (n.natAbs : Int) = n := by omega
    have parsed := parsed false
    obtain ⟨digit, digits, split, isDigit⟩ := exists_toDigits_eq_cons n.natAbs
    have unsigned : digit ≠ '-' ∧ digit ≠ '+' := by
      constructor <;> (rintro rfl; cases isDigit)
    rw [split, value] at parsed
    rw [if_neg negative, List.nil_append, split]
    simpa [readExponent, unsigned] using parsed

theorem endsNumber_cons {c : Char} (after : List Char) (digit : c.isDigit = false)
    (h : c ∉ ['.', 'e', 'E']) : EndsNumber (c :: after) := by
  intro c' head
  cases head
  exact ⟨digit, h⟩

theorem readNumber_printNumber (number : JsonNumber) (fraction : ∀ c ∈ number.fraction, c.isDigit)
    {after : List Char} (stop : EndsNumber after) :
    readNumber ((printNumber number).toList ++ after) = some (number, after) := by
  obtain ⟨negative, integer, digits, exponent⟩ := number
  -- the text of the exponent, which ends the fraction, and the text of both, which ends the integer
  let third : List Char :=
    match exponent with
    | none => after
    | some exponent => 'e' :: ((toString exponent).toList ++ after)
  let second : List Char := (if digits.isEmpty then [] else '.' :: digits) ++ third
  have text : (printNumber ⟨negative, integer, digits, exponent⟩).toList ++ after =
      (if negative then ['-'] else []) ++ (Nat.toDigits 10 integer ++ second) := by
    cases negative <;> cases exponent <;> cases digits <;> simp [printNumber, second, third]
  have thirdRead : readExponent third = some (exponent, after) := by
    cases exponent with
    | none => exact readExponent_none stop
    | some exponent => exact readExponent_some exponent stop
  have thirdStop : ∀ c ∈ third.head?, c.isDigit = false ∧ c ≠ '.' := by
    cases exponent with
    | none =>
      intro c head
      obtain ⟨digit, letters⟩ := stop c head
      simp only [List.mem_cons, not_or] at letters
      exact ⟨digit, letters.1⟩
    | some exponent => simp [third]
  have secondStop : ∀ c ∈ second.head?, c.isDigit = false := by
    cases digits with
    | nil => exact fun c mem => (thirdStop c mem).1
    | cons digit digits => simp [second]
  have first := readInteger_toDigits integer secondStop
  have middle : readFraction second = some (digits, third) :=
    readFraction_append fraction thirdStop
  rw [text]
  cases negative with
  | true => simp [readNumber, first, middle, thirdRead]
  | false =>
    obtain ⟨digit, digits', split, isDigit⟩ := exists_toDigits_eq_cons integer
    have unsigned : digit ≠ '-' := by
      rintro rfl
      cases isDigit
    rw [split] at first
    rw [split]
    simp_all [readNumber]

/-! ## Values -/

/-- The members of an object with texts for keys. -/
def keyed (members : List (String × Json)) : List (Json × Json) :=
  members.map fun (key, value) => (.text key, value)

/-- A value that a text can spell: the keys of objects are strings, and digits follow the points of
numbers. -/
inductive IsPrintable : Json → Prop
  | null : IsPrintable .null
  | bool (value : Bool) : IsPrintable (.bool value)
  | number (number : JsonNumber) (h : ∀ c ∈ number.fraction, c.isDigit) :
    IsPrintable (.number number)
  | text (text : String) : IsPrintable (.text text)
  | array (items : List Json) (h : ∀ item ∈ items, IsPrintable item) : IsPrintable (.array items)
  | object (members : List (String × Json)) (h : ∀ member ∈ members, IsPrintable member.2) :
    IsPrintable (.object (keyed members))

/-- Wherever the text of a value stands, reading it gives back the value. -/
def ReadsBack (value : Json) : Prop :=
  ∀ level bound after, EndsNumber after → (value.prettyAt level).length ≤ bound →
    readValue (bound + 1) ((value.prettyAt level).toList ++ after) = (value, after)

theorem readValue_number {text after : List Char} {number : JsonNumber} (bound : Nat)
    (h : readNumber text = some (number, after)) :
    readValue (bound + 1) text = (.number number, after) := by
  have blank : skipBlanks text = text := by
    cases text with
    | nil => rfl
    | cons c text =>
      refine skipBlanks_cons text fun mem => ?_
      simp only [List.mem_cons, List.not_mem_nil, or_false] at mem
      rcases mem with rfl | rfl | rfl | rfl <;> simp [readNumber, readInteger, spanDigits] at h
  rw [readValue, blank]
  split <;> simp_all [readNumber, readInteger, spanDigits]

theorem readValue_text (text : String) (bound : Nat) (after : List Char) :
    readValue (bound + 1) ((printString text).toList ++ after) = (.text text, after) := by
  have parsed := readString_escapeChar text after
  simp [readValue, printString, skipBlanks_cons, parsed]

theorem endsNumber_newLine (level : Nat) (after : List Char) :
    EndsNumber ((newLine level).toList ++ after) := by
  rw [newLine, String.toList_ofList]
  exact endsNumber_cons _ rfl (by decide)

theorem readValue_newLine (level bound : Nat) (text : List Char) :
    readValue bound ((newLine level).toList ++ text) = readValue bound text := by
  cases bound with
  | zero => rfl
  | succ bound => simp only [readValue, skipBlanks_newLine]

theorem readItems_newLine (level bound : Nat) (text : List Char) :
    readItems bound ((newLine level).toList ++ text) = readItems bound text := by
  cases bound with
  | zero => rfl
  | succ bound => simp only [readItems, readValue_newLine]

theorem readMembers_newLine (level bound : Nat) (text : List Char) :
    readMembers bound ((newLine level).toList ++ text) = readMembers bound text := by
  cases bound with
  | zero => rfl
  | succ bound => simp only [readMembers, readValue_newLine]

/-- The text of the items of an array, up to its end. -/
def itemsText (level : Nat) (item : Json) (items : List Json) : String :=
  item.prettyAt (level + 1) ++ prettyItems (level + 1) items ++ newLine level ++ "]"

theorem itemsText_nil (level : Nat) (item : Json) :
    itemsText level item [] = item.prettyAt (level + 1) ++ (newLine level ++ "]") := by
  simp [itemsText, prettyItems, String.append_assoc]

theorem itemsText_cons (level : Nat) (item next : Json) (items : List Json) :
    itemsText level item (next :: items) =
      item.prettyAt (level + 1) ++
        ("," ++ (newLine (level + 1) ++ itemsText level next items)) := by
  simp [itemsText, prettyItems, String.append_assoc]

theorem readItems_itemsText {item : Json} {items : List Json}
    (h : ∀ value ∈ item :: items, ReadsBack value) {level bound : Nat} (after : List Char)
    (enough : (itemsText level item items).length < bound) :
    readItems bound ((itemsText level item items).toList ++ after) = (item :: items, after) := by
  have comma : ",".length = 1 := rfl
  have bracket : "]".length = 1 := rfl
  induction items generalizing item bound with
  | nil =>
    rw [itemsText_nil] at enough ⊢
    simp only [String.length_append, String.toList_append, List.append_assoc] at enough ⊢
    obtain ⟨bound, rfl⟩ : ∃ n, bound = n + 2 := ⟨bound - 2, by omega⟩
    have first := h item (by simp) (level + 1) bound _
      (endsNumber_newLine level (']' :: after)) (by omega)
    simp [readItems, first, skipBlanks_newLine, skipBlanks_cons]
  | cons next items ih =>
    rw [itemsText_cons] at enough ⊢
    simp only [String.length_append, String.toList_append, List.append_assoc] at enough ⊢
    obtain ⟨bound, rfl⟩ : ∃ n, bound = n + 2 := ⟨bound - 2, by omega⟩
    have first := h item (by simp) (level + 1) bound
      (',' :: ((newLine (level + 1)).toList ++ ((itemsText level next items).toList ++ after)))
      (endsNumber_cons _ rfl (by decide)) (by omega)
    have others := ih (fun value mem => h value (List.mem_cons_of_mem _ mem))
      (show (itemsText level next items).length < bound + 1 by omega)
    rw [readItems]
    simp [first, skipBlanks_cons, readItems_newLine, others]

/-- The text of the members of an object, up to its end. -/
def membersText (level : Nat) (key : String) (value : Json) (members : List (String × Json)) :
    String :=
  printString key ++ ": " ++ value.prettyAt (level + 1) ++
    prettyMembers (level + 1) (keyed members) ++ newLine level ++ "\x7d"

theorem membersText_nil (level : Nat) (key : String) (value : Json) :
    membersText level key value [] =
      printString key ++ (": " ++ (value.prettyAt (level + 1) ++ (newLine level ++ "\x7d"))) := by
  simp [membersText, keyed, prettyMembers, String.append_assoc]

theorem membersText_cons (level : Nat) (key key' : String) (value value' : Json)
    (members : List (String × Json)) :
    membersText level key value ((key', value') :: members) =
      printString key ++ (": " ++ (value.prettyAt (level + 1) ++
        ("," ++ (newLine (level + 1) ++ membersText level key' value' members)))) := by
  simp [membersText, keyed, prettyMembers, String.append_assoc, Json.text, printScalar]

theorem readValue_blank (bound : Nat) (text : List Char) :
    readValue bound (' ' :: text) = readValue bound text := by
  cases bound with
  | zero => rfl
  | succ bound => rw [readValue, readValue, skipBlanks, skipBlanks, List.dropWhile_cons_of_pos rfl]

theorem readMembers_membersText {key : String} {value : Json} {members : List (String × Json)}
    (h : ReadsBack value) (others : ∀ member ∈ members, ReadsBack member.2) {level bound : Nat}
    (after : List Char) (enough : (membersText level key value members).length < bound) :
    readMembers bound ((membersText level key value members).toList ++ after) =
      (keyed ((key, value) :: members), after) := by
  have comma : ",".length = 1 := rfl
  have colon : ": ".length = 2 := rfl
  induction members generalizing key value bound with
  | nil =>
    rw [membersText_nil] at enough ⊢
    simp only [String.length_append, String.toList_append, List.append_assoc] at enough ⊢
    obtain ⟨bound, rfl⟩ : ∃ n, bound = n + 2 := ⟨bound - 2, by omega⟩
    have first := h (level + 1) bound _ (endsNumber_newLine level ('}' :: after)) (by omega)
    have name := readValue_text key bound
    simp [readMembers, name, readValue_blank, first, skipBlanks_newLine, skipBlanks_cons, keyed,
      isString, Json.text]
  | cons next members ih =>
    obtain ⟨key', value'⟩ := next
    rw [membersText_cons] at enough ⊢
    simp only [String.length_append, String.toList_append, List.append_assoc] at enough ⊢
    obtain ⟨bound, rfl⟩ : ∃ n, bound = n + 2 := ⟨bound - 2, by omega⟩
    have first := h (level + 1) bound
      (',' :: ((newLine (level + 1)).toList ++
        ((membersText level key' value' members).toList ++ after)))
      (endsNumber_cons _ rfl (by decide)) (by omega)
    have name := readValue_text key bound
    have following := ih (others (key', value') List.mem_cons_self)
      (fun member mem => others member (List.mem_cons_of_mem _ mem))
      (show (membersText level key' value' members).length < bound + 1 by omega)
    rw [readMembers, name]
    simp [readValue_blank, first, skipBlanks_cons, readMembers_newLine, following, keyed, isString,
      Json.text]

theorem skipBlanks_skipBlanks (text : List Char) : skipBlanks (skipBlanks text) = skipBlanks text :=
  List.dropWhile_idempotent _ text

theorem readItems_skipBlanks (bound : Nat) (text : List Char) :
    readItems bound (skipBlanks text) = readItems bound text := by
  obtain _ | _ | bound := bound
  · rfl
  · rfl
  · simp only [readItems, readValue, skipBlanks_skipBlanks]

/-- Items are not read from where an array ends. -/
theorem readItems_of_closed {text after : List Char} (bound : Nat)
    (closed : skipBlanks text = ']' :: after) : .malformed ∈ (readItems bound text).1 := by
  obtain _ | _ | bound := bound
  · simp [readItems]
  · simp [readItems, readValue, skipBlanks]
  · have unread : readValue (bound + 1) text = (.malformed, []) := by
      simp [readValue, closed, readNumber, readInteger, spanDigits]
    simp [readItems, unread, skipBlanks]

theorem readValue_array {text after : List Char} {bound : Nat} {items : List Json}
    (h : readItems bound text = (items, after)) (printable : .malformed ∉ items) :
    readValue (bound + 1) ('[' :: text) = (.array items, after) := by
  have notClosed : ∀ after', skipBlanks text ≠ ']' :: after' := by
    intro after' closed
    have malformed := readItems_of_closed bound closed
    rw [h] at malformed
    exact printable malformed
  have body := readItems_skipBlanks bound text
  rw [h] at body
  rw [readValue, skipBlanks_cons _ (by decide)]
  simp only [body]

theorem IsPrintable.readsBack {value : Json} (h : IsPrintable value) : ReadsBack value := by
  induction h with
  | null =>
    intro level bound after _ enough
    simp [readValue, prettyAt, printScalar, skipBlanks_cons]
  | bool value =>
    intro level bound after _ enough
    cases value <;> simp [readValue, prettyAt, printScalar, skipBlanks_cons]
  | number number h =>
    intro level bound after stop enough
    exact readValue_number bound (readNumber_printNumber number h stop)
  | text text =>
    intro level bound after _ enough
    exact readValue_text text bound after
  | array items printable ih =>
    intro level bound after _ enough
    cases items with
    | nil => simp [readValue, prettyAt, skipBlanks_cons]
    | cons item items =>
      have layout : prettyAt level (.array (item :: items)) =
          "[" ++ (newLine (level + 1) ++ itemsText level item items) := by
        simp [prettyAt, itemsText, String.append_assoc]
      have bracket : "[".length = 1 := rfl
      rw [layout] at enough ⊢
      simp only [String.length_append, String.toList_append, List.append_assoc] at enough ⊢
      have body := readItems_itemsText ih after
        (show (itemsText level item items).length < bound by omega)
      rw [← readItems_newLine (level + 1)] at body
      exact readValue_array body fun mem => nomatch printable _ mem
  | object members _ ih =>
    intro level bound after _ enough
    cases members with
    | nil => simp [readValue, prettyAt, skipBlanks_cons, keyed]
    | cons member members =>
      obtain ⟨key, value⟩ := member
      have layout : prettyAt level (.object (keyed ((key, value) :: members))) =
          "\x7b" ++ (newLine (level + 1) ++ membersText level key value members) := by
        simp [prettyAt, membersText, keyed, String.append_assoc, Json.text, printScalar]
      have brace : "\x7b".length = 1 := rfl
      rw [layout] at enough ⊢
      simp only [String.length_append, String.toList_append, List.append_assoc] at enough ⊢
      have body := readMembers_membersText (ih (key, value) List.mem_cons_self)
        (fun member mem => ih member (List.mem_cons_of_mem _ mem)) after
        (show (membersText level key value members).length < bound by omega)
      have quote : ∃ text, (membersText level key value members).toList = '"' :: text := by
        simp [membersText, printString]
      obtain ⟨text, quoted⟩ := quote
      rw [quoted] at body ⊢
      simp only [List.cons_append] at body
      simp [readValue, skipBlanks_cons, skipBlanks_newLine, body]

/-- **Every printed document is read back whole**. -/
theorem ofText_pretty {value : Json} (h : IsPrintable value) :
    ofText value.pretty = (value, true) := by
  have parsed := h.readsBack 0 (2 * value.pretty.length + 1) [] (by simp [EndsNumber])
    (show value.pretty.length ≤ _ by omega)
  rw [List.append_nil, ← pretty] at parsed
  rw [ofText, parsed]
  rfl

end FluentGen.Json

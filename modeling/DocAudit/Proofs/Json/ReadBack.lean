import DocAudit.Json.Reader
import DocAudit.Json.Writer
import DocAudit.Proofs.Digest.Hex

/-!
# JSON that is read back

What the writer makes of a value is read as that value.

* `readString_escaped`: a text comes back from its escaped characters.
* `readNumber_display`: a number comes back from its digits, whatever ends it.
* `readsBack_of_writable`: a value comes back, whatever ends it, as soon as the fuel is not less
  than the number of characters.
* `parse_pretty`: a text that holds a written value holds nothing else.

Only values that denote something can be written: every string and key is a text, and numbers have
the digits they need (`Writable`).
-/

namespace DocAudit.Json

open Text

/-! ## White space -/

theorem skip_append {pad : List Char} (h : ∀ c ∈ pad, isSpace c = true) (cs : List Char) :
    skip (pad ++ cs) = skip cs :=
  List.dropWhile_append_of_pos h

theorem skip_cons {c : Char} (h : isSpace c = false) (cs : List Char) :
    skip (c :: cs) = c :: cs :=
  List.dropWhile_cons_of_neg (by simp [h])

theorem isSpace_of_mem_newline {depth : Nat} {c : Char} (h : c ∈ (newline depth).toList) :
    isSpace c = true := by
  have hblanks : ∀ n, ∀ d ∈ ("".pushn ' ' n).toList, d = ' ' := by
    intro n
    induction n with
    | zero => simp [String.pushn, Nat.repeat]
    | succ n ih =>
      intro d hd
      simp only [String.pushn, Nat.repeat, String.toList_push, List.mem_append,
        List.mem_singleton] at hd
      exact hd.elim (ih d) id
  rw [newline, String.toList_append, List.mem_append] at h
  rcases h with h | h
  · have hfeed : c = '\n' := by simpa using h
    rw [hfeed]
    rfl
  · rw [hblanks _ c h]
    rfl

theorem length_newline (depth : Nat) : (newline depth).toList.length = 2 * depth + 1 := by
  have hblanks : ∀ n, ("".pushn ' ' n).toList.length = n := by
    intro n
    induction n with
    | zero => simp [String.pushn, Nat.repeat]
    | succ n ih => simpa [String.pushn, Nat.repeat] using ih
  simp [newline, hblanks]

theorem skip_newline (depth : Nat) (cs : List Char) :
    skip ((newline depth).toList ++ cs) = skip cs :=
  skip_append (fun _ => isSpace_of_mem_newline) cs

/-! ## Strings -/

/-- **A character comes back from its escape.** -/
theorem stringStep_escapeChar (c : Char) (rest : List Char) :
    stringStep (escapeChar c ++ rest) = .char (some c) rest := by
  unfold escapeChar
  -- the characters that have an escape of their own
  iterate 7
    split
    · subst_vars
      rfl
  split
  · -- a control character, written with four hexadecimal digits
    rename_i h
    have hbyte : (UInt8.ofNat c.toNat).toNat = c.toNat :=
      UInt8.toNat_ofNat_of_lt' (Nat.lt_trans h (by decide))
    have hhex : hexNumber? ('0' :: '0' :: Digest.byteChars (UInt8.ofNat c.toNat)) =
        some c.toNat := by
      rw [Digest.hexNumber?_zero_cons, Digest.hexNumber?_zero_cons, Digest.hexNumber?_byteChars,
        hbyte]
    have hhigh : isHighSurrogate c.toNat = false := by simp [isHighSurrogate]; omega
    have hlow : isLowSurrogate c.toNat = false := by simp [isLowSurrogate]; omega
    simp only [Digest.byteChars] at hhex ⊢
    simp only [List.cons_append, List.nil_append]
    rw [stringStep]
    simp only [hhex, hhigh, hlow, Char.ofNat_toNat]
    rfl
  · simp only [List.cons_append, List.nil_append]
    rw [stringStep.eq_def]
    split <;> simp_all

theorem readString_escaped : ∀ (cs text : List Char) (fuel : Nat) (rest : List Char),
    cs.length < fuel →
      readString fuel (some text) (cs.flatMap escapeChar ++ '"' :: rest) =
        some (some (String.ofList (text.reverse ++ cs)), rest)
  | [], text, fuel + 1, rest, _ => by simp [readString, stringStep]
  | c :: cs, text, fuel + 1, rest, h => by
    have ih := readString_escaped cs (c :: text) fuel rest (by simp at h; omega)
    rw [List.flatMap_cons, List.append_assoc, readString, stringStep_escapeChar]
    simpa using ih

theorem toList_quote (s : String) :
    (quote s).toList = '"' :: (s.toList.flatMap escapeChar ++ ['"']) := by
  simp [quote]

theorem length_le_flatMap_escapeChar : ∀ cs : List Char,
    cs.length ≤ (cs.flatMap escapeChar).length
  | [] => Nat.le_refl 0
  | c :: cs => by
    have hpos : 0 < (escapeChar c).length := by
      unfold escapeChar
      repeat' split
      all_goals simp
    have ih := length_le_flatMap_escapeChar cs
    simp only [List.flatMap_cons, List.length_append, List.length_cons]
    omega

/-- **A text comes back from between its quotes.** -/
theorem readString_quote (s : String) {fuel : Nat} {rest : List Char}
    (h : (quote s).toList.length ≤ fuel + 1) :
    readString fuel (some []) (s.toList.flatMap escapeChar ++ '"' :: rest) =
      some (some s, rest) := by
  have hlen := length_le_flatMap_escapeChar s.toList
  simp only [toList_quote, List.length_cons, List.length_append, List.length_nil] at h
  rw [readString_escaped s.toList [] fuel rest (by omega)]
  simp

/-! ## Numbers -/

/-- The characters after a value cannot be taken for a part of a number. -/
def Ends (rest : List Char) : Prop :=
  ∀ c ∈ rest.head?, c.isDigit = false ∧ c ≠ '.' ∧ c ≠ 'e' ∧ c ≠ 'E'

/-- The characters do not start with a digit. -/
def NoDigit (rest : List Char) : Prop := ∀ c ∈ rest.head?, c.isDigit = false

theorem Ends.noDigit {rest : List Char} (h : Ends rest) : NoDigit rest := fun c hc => (h c hc).1

theorem digits_append {ds rest : List Char} (hds : ∀ c ∈ ds, c.isDigit = true)
    (hrest : NoDigit rest) : digits (ds ++ rest) = (ds, rest) := by
  have hstop : rest.takeWhile Char.isDigit = [] ∧ rest.dropWhile Char.isDigit = rest := by
    cases rest with
    | nil => exact ⟨rfl, rfl⟩
    | cons c cs => simp [hrest c rfl]
  unfold digits
  rw [List.takeWhile_append_of_pos hds, List.dropWhile_append_of_pos hds, hstop.1, hstop.2,
    List.append_nil]

/-- A number that is written with the digits it needs. -/
structure Number.Written (n : Number) : Prop where
  integer : ∀ c ∈ n.integer, c.isDigit = true
  /-- No zero stands in front of other digits. -/
  leading : n.integer = ['0'] ∨ ∃ d ds, n.integer = d :: ds ∧ d ≠ '0'
  fraction : ∀ c ∈ n.fraction, c.isDigit = true
  exponent : ∀ e ∈ n.exponent, e.2 ≠ [] ∧ ∀ c ∈ e.2, c.isDigit = true

namespace Number

def fractionChars (n : Number) : List Char :=
  if n.fraction.isEmpty then [] else '.' :: n.fraction

def exponentChars (n : Number) : List Char :=
  match n.exponent with
  | some (negative, ds) => 'e' :: (if negative then '-' else '+') :: ds
  | none => []

theorem toList_display (n : Number) :
    n.display.toList = (if n.negative then ['-'] else []) ++
      (n.integer ++ (n.fractionChars ++ n.exponentChars)) := by
  unfold display fractionChars exponentChars
  cases n.negative <;> cases n.fraction.isEmpty <;> rcases n.exponent with _ | ⟨_ | _, ds⟩ <;> simp

variable {n : Number} {rest : List Char}

theorem noDigit_exponentChars_append (hrest : Ends rest) : NoDigit (n.exponentChars ++ rest) := by
  unfold exponentChars
  rcases n.exponent with _ | ⟨negative, ds⟩
  · exact hrest.noDigit
  · intro c hc
    cases hc
    rfl

theorem noDigit_fractionChars_append (hrest : NoDigit rest) :
    NoDigit (n.fractionChars ++ rest) := by
  unfold fractionChars
  split
  · exact hrest
  · intro c hc
    cases hc
    rfl

theorem Written.exists_eq_cons (h : n.Written) :
    ∃ d ds, n.integer = d :: ds ∧ d.isDigit = true := by
  rcases h.leading with hzero | ⟨d, ds, hds, _⟩
  · exact ⟨'0', [], hzero, rfl⟩
  · exact ⟨d, ds, hds, h.integer d (by simp [hds])⟩

theorem readInteger_append (h : n.Written) (hrest : NoDigit rest) :
    readInteger (n.integer ++ rest) = some (n.integer, rest) := by
  unfold readInteger
  rw [digits_append h.integer hrest]
  rcases h.leading with hzero | ⟨d, ds, hds, hne⟩
  · rw [hzero]
    rfl
  · rw [hds]
    split <;> simp_all

theorem readFraction_append (h : n.Written) (hrest : NoDigit rest)
    (hpoint : ∀ c ∈ rest.head?, c ≠ '.') :
    readFraction (n.fractionChars ++ rest) = some (n.fraction, rest) := by
  unfold fractionChars
  cases hf : n.fraction with
  | nil =>
    simp only [List.isEmpty_nil, if_true, List.nil_append]
    unfold readFraction
    split
    · exact absurd rfl (hpoint '.' rfl)
    · rfl
  | cons d ds =>
    have hdigits := digits_append (hf ▸ h.fraction) hrest
    simp only [List.isEmpty_cons, Bool.false_eq_true, if_false, List.cons_append, readFraction]
    rw [← List.cons_append, hdigits]

theorem readExponent_append (h : n.Written) (hrest : Ends rest) :
    readExponent (n.exponentChars ++ rest) = some (n.exponent, rest) := by
  unfold exponentChars
  cases he : n.exponent with
  | none =>
    cases rest with
    | nil => rfl
    | cons c cs =>
      obtain ⟨_, _, hlower, hupper⟩ := hrest c rfl
      simp [readExponent, hlower, hupper]
  | some e =>
    obtain ⟨negative, ds⟩ := e
    obtain ⟨hne, hds⟩ := h.exponent (negative, ds) he
    have hdigits := digits_append hds hrest.noDigit
    cases ds with
    | nil => exact absurd rfl hne
    | cons d ds =>
      rw [List.cons_append] at hdigits
      cases negative <;> simp [readExponent, readExponentSign, hdigits]

/-- **A number comes back from its digits.** -/
theorem readNumber_display (h : n.Written) (hrest : Ends rest) :
    readNumber (n.display.toList ++ rest) = some (n, rest) := by
  have hexponent := readExponent_append h hrest
  have hfraction := readFraction_append h (noDigit_exponentChars_append (n := n) hrest) (by
    unfold exponentChars
    rcases n.exponent with _ | ⟨negative, ds⟩
    · exact fun c hc => (hrest c hc).2.1
    · intro c hc
      cases hc
      decide)
  have hinteger := readInteger_append h
    (noDigit_fractionChars_append (n := n) (noDigit_exponentChars_append (n := n) hrest))
  rw [toList_display]
  simp only [List.append_assoc]
  unfold readNumber
  cases hn : n.negative with
  | true =>
    simp only [if_true, List.singleton_append, hinteger, hfraction, hexponent,
      Option.bind_eq_bind, Option.bind_some, ← hn]
  | false =>
    simp only [Bool.false_eq_true, if_false, List.nil_append]
    split
    · rename_i heq
      obtain ⟨d, ds, hds, hdigit⟩ := h.exists_eq_cons
      rw [hds] at heq
      cases heq
      cases hdigit
    · simp only [hinteger, hfraction, hexponent, Option.bind_eq_bind, Option.bind_some, ← hn]

theorem exists_toList_display (h : n.Written) :
    ∃ c cs, n.display.toList = c :: cs ∧ (c = '-' ∨ c.isDigit = true) := by
  obtain ⟨d, ds, hds, hdigit⟩ := h.exists_eq_cons
  rw [toList_display, hds]
  cases n.negative
  · exact ⟨d, _, rfl, .inr hdigit⟩
  · exact ⟨'-', _, rfl, .inl rfl⟩

end Number

/-! ## Values -/

/-- What the reader does is decided by the first character that is no white space. -/
theorem readValue_append {pad : List Char} (h : ∀ c ∈ pad, isSpace c = true) (fuel : Nat)
    (cs : List Char) : readValue fuel (pad ++ cs) = readValue fuel cs := by
  cases fuel with
  | zero => rfl
  | succ fuel => rw [readValue, readValue, skip_append h]

theorem readValue_number {c : Char} (h : c = '-' ∨ c.isDigit = true) (fuel : Nat)
    (cs : List Char) :
    readValue (fuel + 1) (c :: cs) = (readNumber (c :: cs)).map fun (k, r) => (.number k, r) := by
  have hspace : isSpace c = false := by
    rcases h with rfl | h
    · rfl
    · unfold isSpace
      rw [Bool.eq_false_iff]
      intro hs
      simp only [Bool.or_eq_true, decide_eq_true_eq] at hs
      rcases hs with ((rfl | rfl) | rfl) | rfl <;> cases h
  rw [readValue, skip_cons hspace]
  -- every other character that starts a value is neither a minus sign nor a digit
  split <;> rename_i heq
  all_goals first
    | rfl
    | cases heq
      rcases h with h | h <;> cases h

theorem readValue_string {s : String} {fuel : Nat} (rest : List Char)
    (h : (quote s).toList.length ≤ fuel) :
    readValue fuel ((quote s).toList ++ rest) = some (.str (some s), rest) := by
  cases fuel with
  | zero => simp [toList_quote] at h
  | succ fuel =>
    rw [toList_quote, List.cons_append, readValue, skip_cons rfl, List.append_assoc]
    simp [readString_quote s h]

/-- The characters are read as a value, whatever ends it. -/
def ReadsAs (fuel : Nat) (cs : List Char) (v : Json) : Prop :=
  ∀ rest, Ends rest → readValue fuel (cs ++ rest) = some (v, rest)

theorem ReadsAs.append_left {fuel : Nat} {cs : List Char} {v : Json} (h : ReadsAs fuel cs v)
    {pad : List Char} (hpad : ∀ c ∈ pad, isSpace c = true) : ReadsAs fuel (pad ++ cs) v := by
  intro rest hrest
  rw [List.append_assoc, readValue_append hpad, h rest hrest]

theorem ReadsAs.blank {fuel : Nat} {cs : List Char} {v : Json} (h : ReadsAs fuel cs v) :
    ReadsAs fuel (' ' :: cs) v := by
  have hblank : ∀ c ∈ [' '], isSpace c = true := by simp [isSpace]
  exact h.append_left hblank

theorem ends_newline_append (depth : Nat) (cs : List Char) :
    Ends ((newline depth).toList ++ cs) := by
  intro c hc
  have hfeed : c = '\n' := by simpa [newline, eq_comm] using hc
  rw [hfeed]
  decide

theorem ends_comma (cs : List Char) : Ends (',' :: cs) := by
  intro c hc
  cases hc
  decide

/-- No item starts with a closing bracket. -/
theorem skip_ne_close {fuel : Nat} {seen : List Json} {cs : List Char}
    {r : List Json × List Char} (h : readItems fuel seen cs = some r) (after : List Char) :
    skip cs ≠ ']' :: after := by
  intro hclose
  cases fuel with
  | zero => cases h
  | succ fuel =>
    have hnone : readValue fuel cs = none := by
      cases fuel with
      | zero => rfl
      | succ fuel =>
        rw [readValue, hclose]
        rfl
    rw [readItems, hnone] at h
    cases h

section Items

variable {fuel : Nat} {cs rest : List Char} {v : Json} (seen : List Json)

theorem readItems_last (h : ReadsAs fuel cs v) (depth : Nat) :
    readItems (fuel + 1) seen (cs ++ ((newline depth).toList ++ ']' :: rest)) =
      some (seen.reverse ++ [v], rest) := by
  rw [readItems, h _ (ends_newline_append depth _)]
  simp [skip_newline, skip_cons (c := ']') rfl]

theorem readItems_more (h : ReadsAs fuel cs v) :
    readItems (fuel + 1) seen (cs ++ ',' :: rest) = readItems fuel (v :: seen) rest := by
  rw [readItems, h _ (ends_comma _)]
  simp [skip_cons (c := ',') rfl]

end Items

section Members

variable {fuel : Nat} {cs rest : List Char} {v : Json} (seen : List (Option String × Json))

/-- The characters of a member whose value is written with the given characters. -/
def memberChars (key : String) (cs : List Char) : List Char :=
  (quote key).toList ++ ':' :: ' ' :: cs

theorem readMembers_last (h : ReadsAs fuel cs v) (key : String)
    (hkey : (quote key).toList.length ≤ fuel + 1) (depth depth' : Nat) :
    readMembers (fuel + 1) seen ((newline depth).toList ++
        (memberChars key cs ++ ((newline depth').toList ++ '\x7d' :: rest))) =
      some (seen.reverse ++ [(some key, v)], rest) := by
  have hvalue := h.blank _ (ends_newline_append depth' ('\x7d' :: rest))
  rw [readMembers, skip_newline, memberChars, toList_quote]
  simp_all [skip_cons (c := '"') rfl, skip_cons (c := ':') rfl, readString_quote key hkey,
    skip_newline, skip_cons (c := '\x7d') rfl]

theorem readMembers_more (h : ReadsAs fuel cs v) (key : String)
    (hkey : (quote key).toList.length ≤ fuel + 1) (depth : Nat) :
    readMembers (fuel + 1) seen ((newline depth).toList ++ (memberChars key cs ++ ',' :: rest)) =
      readMembers fuel ((some key, v) :: seen) rest := by
  have hvalue := h.blank _ (ends_comma rest)
  rw [readMembers, skip_newline, memberChars, toList_quote]
  simp_all [skip_cons (c := '"') rfl, skip_cons (c := ':') rfl, readString_quote key hkey,
    skip_cons (c := ',') rfl]

end Members

/-! ## Written values -/

/-- Every string and key of the value is a text, and every number is well written. -/
inductive Writable : Json → Prop
  | null : Writable .null
  | bool (b : Bool) : Writable (.bool b)
  | number {n : Number} : n.Written → Writable (.number n)
  | str (s : String) : Writable (.str (some s))
  | arr {items : List Json} : (∀ v ∈ items, Writable v) → Writable (.arr items)
  | obj {members : List (Option String × Json)} : (∀ m ∈ members, m.1.isSome) →
      (∀ m ∈ members, Writable m.2) → Writable (.obj members)

/-- The value comes back from its written form.  The characters are fuel enough, because every step
of the reader takes one. -/
def ReadsBack (v : Json) : Prop :=
  ∀ depth fuel, (prettyAt depth v).toList.length ≤ fuel →
    ReadsAs fuel (prettyAt depth v).toList v

theorem toList_prettyItems_cons (depth : Nat) (v : Json) (vs : List Json) :
    (prettyItems depth (v :: vs)).toList =
      ',' :: ((newline depth).toList ++ ((prettyAt depth v).toList ++
        (prettyItems depth vs).toList)) := by
  rw [prettyItems]
  simp

theorem toList_prettyMembers_cons (depth : Nat) (key : String) (v : Json)
    (ms : List (Option String × Json)) :
    (prettyMembers depth ((some key, v) :: ms)).toList =
      ',' :: ((newline depth).toList ++ (memberChars key (prettyAt depth v).toList ++
        (prettyMembers depth ms).toList)) := by
  rw [prettyMembers]
  simp [memberChars]

theorem toList_prettyAt_arr (depth : Nat) (v : Json) (vs : List Json) :
    (prettyAt depth (.arr (v :: vs))).toList =
      '[' :: ((newline (depth + 1)).toList ++ ((prettyAt (depth + 1) v).toList ++
        ((prettyItems (depth + 1) vs).toList ++ ((newline depth).toList ++ [']'])))) := by
  rw [prettyAt]
  simp

theorem toList_prettyAt_obj (depth : Nat) (key : String) (v : Json)
    (ms : List (Option String × Json)) :
    (prettyAt depth (.obj ((some key, v) :: ms))).toList =
      '\x7b' :: ((newline (depth + 1)).toList ++
        (memberChars key (prettyAt (depth + 1) v).toList ++
          ((prettyMembers (depth + 1) ms).toList ++ ((newline depth).toList ++ ['\x7d'])))) := by
  rw [prettyAt]
  simp [memberChars]

theorem readItems_prettyItems (depth depth' : Nat) {vs : List Json} (hall : ∀ u ∈ vs, ReadsBack u)
    {fuel : Nat} {v : Json} {cs : List Char} (seen : List Json) (h : ReadsAs fuel cs v)
    (hfuel : (prettyItems depth vs).toList.length ≤ fuel) (rest : List Char) :
    readItems (fuel + 1) seen (cs ++ ((prettyItems depth vs).toList ++
      ((newline depth').toList ++ ']' :: rest))) = some (seen.reverse ++ v :: vs, rest) := by
  induction vs generalizing fuel v cs seen with
  | nil =>
    rw [prettyItems]
    exact readItems_last seen h depth'
  | cons u us ih =>
    rw [toList_prettyItems_cons] at hfuel ⊢
    simp only [List.length_cons, List.length_append, length_newline] at hfuel
    obtain ⟨m, rfl⟩ : ∃ m, fuel = m + 1 := ⟨fuel - 1, by omega⟩
    have hu : ReadsAs m ((newline depth).toList ++ (prettyAt depth u).toList) u :=
      (hall u List.mem_cons_self depth m (by omega)).append_left fun _ => isSpace_of_mem_newline
    have hmore := ih (fun w hw => hall w (List.mem_cons_of_mem u hw)) (v :: seen) hu (by omega)
    rw [List.cons_append, readItems_more seen h]
    simpa using hmore

theorem readMembers_prettyMembers (depth depth' : Nat) {ms : List (Option String × Json)}
    (hkeys : ∀ m ∈ ms, m.1.isSome) (hall : ∀ m ∈ ms, ReadsBack m.2) {fuel : Nat} (key : String)
    {v : Json} {cs : List Char} (seen : List (Option String × Json)) (h : ReadsAs fuel cs v)
    (hkey : (quote key).toList.length ≤ fuel + 1)
    (hfuel : (prettyMembers depth ms).toList.length ≤ fuel) (rest : List Char) :
    readMembers (fuel + 1) seen ((newline depth).toList ++ (memberChars key cs ++
      ((prettyMembers depth ms).toList ++ ((newline depth').toList ++ '\x7d' :: rest)))) =
      some (seen.reverse ++ (some key, v) :: ms, rest) := by
  induction ms generalizing fuel key v cs seen with
  | nil =>
    rw [prettyMembers]
    exact readMembers_last seen h key hkey depth depth'
  | cons m ms ih =>
    obtain ⟨k, w⟩ := m
    obtain ⟨key', rfl⟩ : ∃ key', k = some key' :=
      Option.isSome_iff_exists.1 (hkeys (k, w) List.mem_cons_self)
    rw [toList_prettyMembers_cons] at hfuel ⊢
    simp only [List.length_cons, List.length_append, length_newline, memberChars] at hfuel
    obtain ⟨n, rfl⟩ : ∃ n, fuel = n + 1 := ⟨fuel - 1, by omega⟩
    have hback : ReadsBack w := hall (some key', w) List.mem_cons_self
    have hw : ReadsAs n (prettyAt depth w).toList w := hback depth n (by omega)
    have hmore := ih (fun m hm => hkeys m (List.mem_cons_of_mem _ hm))
      (fun m hm => hall m (List.mem_cons_of_mem _ hm)) key' ((some key, v) :: seen) hw
      (by omega) (by omega)
    rw [List.cons_append, readMembers_more seen h key hkey]
    simpa using hmore

theorem readsBack_arr {items : List Json} (h : ∀ v ∈ items, ReadsBack v) :
    ReadsBack (.arr items) := by
  intro depth fuel hfuel rest _
  cases items with
  | nil =>
    obtain ⟨m, rfl⟩ : ∃ m, fuel = m + 1 := ⟨fuel - 1, by simp [prettyAt] at hfuel; omega⟩
    simp [prettyAt, readValue, skip_cons (c := '[') rfl, skip_cons (c := ']') rfl]
  | cons v vs =>
    rw [toList_prettyAt_arr] at hfuel ⊢
    simp only [List.length_cons, List.length_append, length_newline] at hfuel
    obtain ⟨m, rfl⟩ : ∃ m, fuel = m + 2 := ⟨fuel - 2, by omega⟩
    have hv : ReadsAs m ((newline (depth + 1)).toList ++ (prettyAt (depth + 1) v).toList) v :=
      (h v List.mem_cons_self (depth + 1) m (by omega)).append_left
        fun _ => isSpace_of_mem_newline
    have hitems := readItems_prettyItems (depth + 1) depth
      (fun w hw => h w (List.mem_cons_of_mem v hw)) [] hv (by omega) rest
    have hopen := skip_ne_close hitems
    simp only [List.append_assoc, List.reverse_nil, List.nil_append] at hitems hopen
    simp only [List.cons_append, List.append_assoc, List.nil_append, readValue,
      skip_cons (c := '[') rfl, hitems]
    rfl

theorem readsBack_obj {members : List (Option String × Json)} (hkeys : ∀ m ∈ members, m.1.isSome)
    (h : ∀ m ∈ members, ReadsBack m.2) : ReadsBack (.obj members) := by
  intro depth fuel hfuel rest _
  cases members with
  | nil =>
    obtain ⟨m, rfl⟩ : ∃ m, fuel = m + 1 := ⟨fuel - 1, by simp [prettyAt] at hfuel; omega⟩
    simp [prettyAt, readValue, skip_cons (c := '\x7b') rfl, skip_cons (c := '\x7d') rfl]
  | cons m ms =>
    obtain ⟨k, v⟩ := m
    obtain ⟨key, rfl⟩ : ∃ key, k = some key :=
      Option.isSome_iff_exists.1 (hkeys (k, v) List.mem_cons_self)
    rw [toList_prettyAt_obj] at hfuel ⊢
    simp only [List.length_cons, List.length_append, length_newline, memberChars] at hfuel
    obtain ⟨n, rfl⟩ : ∃ n, fuel = n + 2 := ⟨fuel - 2, by omega⟩
    have hback : ReadsBack v := h (some key, v) List.mem_cons_self
    have hv : ReadsAs n (prettyAt (depth + 1) v).toList v := hback (depth + 1) n (by omega)
    have hmembers := readMembers_prettyMembers (depth + 1) depth
      (fun m hm => hkeys m (List.mem_cons_of_mem _ hm))
      (fun m hm => h m (List.mem_cons_of_mem _ hm)) key [] hv (by omega) (by omega) rest
    simp only [List.reverse_nil, List.nil_append] at hmembers
    simp only [List.cons_append, List.append_assoc, List.nil_append, readValue,
      skip_cons (c := '\x7b') rfl]
    split
    · rename_i after heq
      rw [skip_newline, memberChars, toList_quote] at heq
      cases heq
    · rw [hmembers]
      rfl

/-- **A value comes back from its written form.** -/
theorem readsBack_of_writable {v : Json} (h : Writable v) : ReadsBack v := by
  induction h with
  | null =>
    intro depth fuel hfuel rest _
    obtain ⟨m, rfl⟩ : ∃ m, fuel = m + 1 := ⟨fuel - 1, by simp [prettyAt] at hfuel; omega⟩
    simp [prettyAt, readValue, skip_cons (c := 'n') rfl]
  | bool b =>
    intro depth fuel hfuel rest _
    cases fuel with
    | zero => cases b <;> simp [prettyAt] at hfuel
    | succ fuel =>
      cases b <;> simp [prettyAt, readValue, skip_cons (c := 't') rfl, skip_cons (c := 'f') rfl]
  | number hn =>
    intro depth fuel hfuel rest hrest
    obtain ⟨c, cs, hcs, hc⟩ := Number.exists_toList_display hn
    have hread := Number.readNumber_display hn hrest
    rw [hcs, List.cons_append] at hread
    rw [prettyAt, hcs] at hfuel ⊢
    obtain ⟨m, rfl⟩ : ∃ m, fuel = m + 1 := ⟨fuel - 1, by rw [List.length_cons] at hfuel; omega⟩
    rw [List.cons_append, readValue_number hc, hread]
    rfl
  | str s =>
    intro depth fuel hfuel rest _
    rw [prettyAt] at hfuel ⊢
    exact readValue_string rest hfuel
  | arr _ ih => exact readsBack_arr ih
  | obj hkeys _ ih => exact readsBack_obj hkeys ih

theorem parse_pretty {v : Json} (h : Writable v) : parse (pretty v) = some v := by
  have hends : Ends [] := fun c hc => by cases hc
  have hread := readsBack_of_writable h 0 (2 * (pretty v).toList.length + 2)
    (by rw [pretty]; omega) [] hends
  unfold parse
  rw [List.append_nil] at hread
  simp only [pretty] at hread ⊢
  rw [hread]
  rfl

end DocAudit.Json

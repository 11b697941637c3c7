import SqlRender.Backend.Creation
import SqlRender.Proofs.Spacing

/-!
# The level that the environment asks for

The variable for the level of the log is read when the first dialect of a process is created. It may
hold anything: a number in the decimal digits of any script, the name of a level in any case and
with blanks around it, or something else, which counts as nothing. There is one kind of text that
stops the creation: digits that do not form a number that can be read. Either one of them is a digit
in the wider sense only, such as a superscript, or there are more than `Text.maxDigits`.

* `Text.readInt?_eq_some_iff`, `Text.readInt?_eq_none_iff`: which texts of digits are numbers.
* `Level.resolve_eq_ok_iff`, `Level.resolve_eq_error_iff`: the level that a variable asks for.
* `LogSession.configure_first`: the first use of a logger.
* `Backend.creation_stopped_iff_unreadable`: the first dialect of a process.
-/

namespace SqlRender

/-! ## Digits in the wider sense -/

namespace Text

/-- In ascending ranges the search does not stop too early. -/
theorem inRanges_of_mem {ranges : List (Nat × Nat)} (hasc : ascending ranges = true)
    {r : Nat × Nat} (hr : r ∈ ranges) {n : Nat} (hlo : r.1 ≤ n) (hhi : n ≤ r.2) :
    inRanges ranges n = true := by
  fun_induction ascending ranges with
  | case1 => cases hr
  | case2 s =>
    obtain rfl := List.mem_singleton.mp hr
    simp [inRanges, hhi, Nat.not_lt.mpr hlo]
  | case3 s t rest ih =>
    simp only [Bool.and_eq_true, decide_eq_true_eq] at hasc
    obtain ⟨⟨hs, hst⟩, hrest⟩ := hasc
    rcases List.mem_cons.mp hr with rfl | hr
    · simp [inRanges, hhi, Nat.not_lt.mpr hlo]
    · have htail := ih hrest hr
      -- the search goes past `s`, since `n` was found from `t` on, which lies above `s`
      have ht : t.1 ≤ n := by
        by_contra hlt
        simp [inRanges, Nat.not_le.mp hlt] at htail
      rw [inRanges, if_neg (by omega), htail, Bool.or_true]

theorem inRanges_of_digitIn {ranges : List (Nat × Nat)} {n digit : Nat}
    (h : digitIn ranges n = some digit) : inRanges ranges n = true := by
  induction ranges with
  | nil => cases h
  | cons r ranges ih =>
    obtain ⟨lo, hi⟩ := r
    rw [digitIn] at h
    rw [inRanges]
    split at h
    · cases h
    · next hlo =>
      rw [if_neg hlo]
      split at h
      · next hhi => simp [hhi]
      · rw [ih h, Bool.or_true]

/-- Decimal digits are digits in the wider sense: each of their ranges lies in one of the others. -/
theorem isDigit_of_decimalDigit? {c : Char} {digit : Nat} (h : decimalDigit? c = some digit) :
    isDigit c = true := by
  have hcover : (decimalRanges.all fun r =>
      digitRanges.any fun s => s.1 ≤ r.1 && r.2 ≤ s.2) = true := by
    decide +kernel
  obtain ⟨r, hr, hlo, hhi⟩ := exists_of_inRanges (inRanges_of_digitIn h)
  obtain ⟨s, hs, hsr⟩ := List.any_eq_true.mp (List.all_eq_true.mp hcover r hr)
  simp only [Bool.and_eq_true, decide_eq_true_eq] at hsr
  exact inRanges_of_mem (by decide) hs (by omega) (by omega)

theorem isBlank_of_isMargin {c : Char} (h : isMargin c = true) : isBlank c = true := by
  unfold isMargin at h
  split at h
  · have hchar : c.toNat = 32 ∨ 9 ≤ c.toNat ∧ c.toNat ≤ 13 := by
      rcases of_decide_eq_true h with rfl | hrange
      · exact .inl rfl
      · exact .inr hrange
    have hall : ∀ n ≤ 32, n = 32 ∨ 9 ≤ n ∧ n ≤ 13 → inRanges blankRanges n = true := by decide
    exact hall c.toNat (by omega) hchar
  · exact h

theorem isMargin_of_isDigit {c : Char} (h : isDigit c = true) : isMargin c = false := by
  have hall : (rangesChars blankRanges).all (fun c => !isDigit c) = true := by decide +kernel
  refine Bool.eq_false_iff.mpr fun hmargin => ?_
  have hno := List.all_eq_true.mp hall c (mem_rangesChars (isBlank_of_isMargin hmargin))
  simp [h] at hno

theorem mem_of_mem_strip {c : Char} {cs : List Char} (h : c ∈ strip cs) : c ∈ cs := by
  have hleft : c ∈ stripLeft cs :=
    List.mem_reverse.mp ((List.dropWhile_sublist _).subset (List.mem_reverse.mp h))
  exact (List.dropWhile_sublist _).subset hleft

/-! ## Numbers -/

/-- The digits are those of the text, one for each character. -/
def DigitsOf (cs : List Char) (digits : List Nat) : Prop :=
  List.Forall₂ (fun c digit => decimalDigit? c = some digit) cs digits

theorem isDigit_of_digitsOf {cs : List Char} {digits : List Nat} (h : DigitsOf cs digits) :
    ∀ c ∈ cs, isDigit c = true := by
  induction h with
  | nil => simp
  | cons hc _ ih => exact List.forall_mem_cons.mpr ⟨isDigit_of_decimalDigit? hc, ih⟩

theorem exists_digitsOf {cs : List Char} (h : ∀ c ∈ cs, decimalDigit? c ≠ none) :
    ∃ digits, DigitsOf cs digits := by
  induction cs with
  | nil => exact ⟨[], .nil⟩
  | cons c cs ih =>
    obtain ⟨hc, hcs⟩ := List.forall_mem_cons.mp h
    obtain ⟨digit, hdigit⟩ := Option.ne_none_iff_exists'.mp hc
    obtain ⟨digits, hdigits⟩ := ih hcs
    exact ⟨digit :: digits, .cons hdigit hdigits⟩

theorem decimalDigit?_of_digitsOf {cs : List Char} {digits : List Nat} (h : DigitsOf cs digits) :
    ∀ c ∈ cs, decimalDigit? c ≠ none := by
  induction h with
  | nil => simp
  | cons hc _ ih => exact List.forall_mem_cons.mpr ⟨by simp [hc], ih⟩

/-- Without low lines grouping has no part in the reading of digits. -/
theorem groupedDigits?_eq_some_iff {cs : List Char} (h : '_' ∉ cs) {digits : List Nat} :
    groupedDigits? true cs = some digits ↔ DigitsOf cs digits := by
  induction cs generalizing digits with
  | nil => simp [groupedDigits?, DigitsOf, eq_comm]
  | cons c cs ih =>
    rw [List.mem_cons, not_or] at h
    rw [groupedDigits?, DigitsOf, List.forall₂_cons_left_iff]
    cases hc : decimalDigit? c with
    | none => simp [Ne.symm h.1]
    | some digit =>
      simp only [Option.map_eq_some_iff, ih h.2]
      constructor
      · rintro ⟨digits, hdigits, rfl⟩
        exact ⟨digit, digits, rfl, hdigits, rfl⟩
      · rintro ⟨_, digits, heq, hdigits, rfl⟩
        cases heq
        exact ⟨digits, hdigits, rfl⟩

theorem groupedDigits?_first {c : Char} (h : c ≠ '_') (cs : List Char) :
    groupedDigits? false (c :: cs) = groupedDigits? true (c :: cs) := by
  rw [groupedDigits?, groupedDigits?]
  cases decimalDigit? c <;> simp [h]

theorem dropMargins_digits {cs : List Char} (h : ∀ c ∈ cs, isDigit c = true) :
    dropMargins cs = cs := by
  have hkeep : ∀ ds : List Char, (∀ c ∈ ds, isDigit c = true) → ds.dropWhile isMargin = ds := by
    intro ds hds
    cases ds with
    | nil => rfl
    | cons d ds => simp [isMargin_of_isDigit (hds d (by simp))]
  rw [dropMargins, hkeep cs h, hkeep cs.reverse (by simpa using h), List.reverse_reverse]

theorem takeSign_digits {cs : List Char} (h : ∀ c ∈ cs, isDigit c = true) :
    takeSign cs = (false, cs) := by
  unfold takeSign
  split
  · exact absurd (h '-' (by simp)) (by decide)
  · exact absurd (h '+' (by simp)) (by decide)
  · rfl

/-- A text of digits is a number if all of them are decimal and there are not too many. -/
theorem readInt?_eq_some_iff {cs : List Char} (hne : cs ≠ []) (h : ∀ c ∈ cs, isDigit c = true)
    {n : Int} :
    readInt? cs = some n ↔
      ∃ digits, DigitsOf cs digits ∧ cs.length ≤ maxDigits ∧ n = digitsValue digits := by
  have hlow : '_' ∉ cs := fun hmem => absurd (h '_' hmem) (by decide)
  obtain ⟨c, rest, rfl⟩ := List.exists_cons_of_ne_nil hne
  have hc : c ≠ '_' := fun heq => hlow (by simp [heq])
  -- digits are neither blanks nor signs nor low lines, so the whole text is the body
  rw [readInt?, dropMargins_digits h, takeSign_digits h]
  dsimp only
  rw [groupedDigits?_first hc]
  cases hdigits : groupedDigits? true (c :: rest) with
  | none =>
    refine iff_of_false (by simp) ?_
    rintro ⟨digits, hof, -⟩
    rw [(groupedDigits?_eq_some_iff hlow).mpr hof] at hdigits
    cases hdigits
  | some digits =>
    have hof := (groupedDigits?_eq_some_iff hlow).mp hdigits
    have hlength : (c :: rest).length = digits.length := hof.length_eq
    have hunique : ∀ others, DigitsOf (c :: rest) others → others = digits := by
      intro others hothers
      rw [← groupedDigits?_eq_some_iff hlow, hdigits] at hothers
      exact (Option.some.inj hothers).symm
    dsimp only
    constructor
    · intro hread
      split at hread
      · cases hread
      · next hshort => exact ⟨digits, hof, by omega, (Option.some.inj hread).symm⟩
    · rintro ⟨others, hothers, hshort, rfl⟩
      rw [hunique others hothers, if_neg (by omega)]
      rfl

theorem readInt?_eq_none_iff {cs : List Char} (hne : cs ≠ []) (h : ∀ c ∈ cs, isDigit c = true) :
    readInt? cs = none ↔ (∃ c ∈ cs, decimalDigit? c = none) ∨ maxDigits < cs.length := by
  rw [Option.eq_none_iff_forall_ne_some]
  constructor
  · intro hread
    by_contra hfault
    rw [not_or] at hfault
    obtain ⟨digits, hdigits⟩ := exists_digitsOf fun c hmem hc => hfault.1 ⟨c, hmem, hc⟩
    exact hread _ ((readInt?_eq_some_iff hne h).mpr
      ⟨digits, hdigits, Nat.le_of_not_lt hfault.2, rfl⟩)
  · intro hfault n hread
    obtain ⟨digits, hdigits, hshort, -⟩ := (readInt?_eq_some_iff hne h).mp hread
    rcases hfault with ⟨c, hmem, hc⟩ | hlong
    · exact decimalDigit?_of_digitsOf hdigits c hmem hc
    · omega

end Text

/-! ## Levels -/

namespace Level

/-- The text is a number, in the decimal digits of any script. -/
def IsNumber (cs : List Char) (n : Level) : Prop :=
  cs ≠ [] ∧ ∃ digits, Text.DigitsOf cs digits ∧ n = Text.digitsValue digits

/-- A text as it is compared with the names of levels: in capitals, without blanks around it. -/
def spelled (cs : List Char) : String := String.ofList ((Text.strip cs).map capital)

/-- The text names a level. -/
def IsNamed (cs : List Char) (level : Level) : Prop := (spelled cs, level) ∈ names

/-- The level that the variable asks for. -/
inductive Asks (default : Level) : Option String → Level → Prop
  | unset {setting : Option String} : setting.getD "" = "" → Asks default setting default
  | number {text : String} {n : Level} : IsNumber text.toList n →
      text.toList.length ≤ Text.maxDigits → Asks default (some text) n
  | named {text : String} {level : Level} : IsNamed text.toList level →
      Asks default (some text) level
  | other {text : String} : (∀ n, ¬IsNumber text.toList n) →
      (∀ level, ¬IsNamed text.toList level) → (∃ c ∈ text.toList, Text.isDigit c = false) →
      Asks default (some text) default

/-- The variable holds digits, and one of them is no decimal digit or there are too many. -/
def Unreadable (setting : Option String) : Prop :=
  ∃ text, setting = some text ∧ (∀ c ∈ text.toList, Text.isDigit c = true) ∧
    ((∃ c ∈ text.toList, Text.decimalDigit? c = none) ∨ Text.maxDigits < text.toList.length)

/-- What has a large letter of the alphabet as its capital is no digit. -/
theorem isDigit_of_isUpper_capital {c : Char} (h : (capital c).isUpper = true) :
    Text.isDigit c = false := by
  unfold capital at h
  split at h
  · next hc =>
    rw [hc]
    decide
  split at h
  · next hc =>
    rw [hc]
    decide
  -- any other character with such a capital is itself a letter of the alphabet
  have hrange : 65 ≤ c.toNat ∧ c.toNat ≤ 122 := by
    unfold Char.toUpper at h
    split at h
    · next hlower =>
      have hlower' : 97 ≤ c.toNat ∧ c.toNat ≤ 122 := by
        simpa [UInt32.le_iff_toNat_le] using hlower
      omega
    · have hupper : c.val ≥ 'A'.val ∧ c.val ≤ 'Z'.val := of_decide_eq_true h
      have hupper' : 65 ≤ c.toNat ∧ c.toNat ≤ 90 := by
        simpa [UInt32.le_iff_toNat_le] using hupper
      omega
  have hall : ∀ n ≤ 122, 65 ≤ n → Text.inRanges Text.digitRanges n = false := by decide
  exact hall c.toNat hrange.2 hrange.1

theorem isNamed_iff {cs : List Char} {level : Level} :
    IsNamed cs level ↔ Assoc.get? (spelled cs) names = some level :=
  ⟨(Assoc.exact _).get?_of_mem (by decide), (Assoc.exact _).mem_of_get?⟩

/-- A name of a level begins with a letter, so it is never taken for digits. -/
theorem IsNamed.exists_isDigit_eq_false {cs : List Char} {level : Level} (h : IsNamed cs level) :
    ∃ c ∈ cs, Text.isDigit c = false := by
  have hall : (names.all fun pair => pair.1.toList.head?.any Char.isUpper) = true := by decide
  have hfirst := List.all_eq_true.mp hall _ h
  rw [spelled, String.toList_ofList] at hfirst
  cases hstrip : Text.strip cs with
  | nil => simp [hstrip] at hfirst
  | cons c rest =>
    have hc : (capital c).isUpper = true := by simpa [hstrip] using hfirst
    exact ⟨c, Text.mem_of_mem_strip (by simp [hstrip]), isDigit_of_isUpper_capital hc⟩

theorem resolve_unset {setting : Option String} (h : setting.getD "" = "") (default : Level) :
    resolve setting default = .ok default := by
  simp [resolve, h]

theorem resolve_digits {text : String} (hne : text ≠ "")
    (h : ∀ c ∈ text.toList, Text.isDigit c = true) (default : Level) :
    resolve (some text) default = (Text.readInt? text.toList).elim (.error .badValue) .ok := by
  have hall : text.toList.all Text.isDigit = true := List.all_eq_true.mpr h
  rw [resolve]
  dsimp only [Option.getD_some]
  rw [if_neg (by simpa using hne), if_pos hall]
  cases Text.readInt? text.toList <;> rfl

theorem resolve_words {text : String} (h : ∃ c ∈ text.toList, Text.isDigit c = false)
    (default : Level) :
    resolve (some text) default = .ok ((Assoc.get? (spelled text.toList) names).getD default) := by
  obtain ⟨c, hmem, hc⟩ := h
  have hne : text.toList ≠ [] := List.ne_nil_of_mem hmem
  have hall : ¬text.toList.all Text.isDigit = true := by
    intro hall
    simp [List.all_eq_true.mp hall c hmem] at hc
  rw [resolve]
  dsimp only [Option.getD_some]
  rw [if_neg (by simpa using hne), if_neg hall]
  rfl

/-- What the variable can hold: nothing, digits alone, or something that is no digit. -/
theorem cases_setting {motive : Option String → Prop}
    (unset : ∀ setting : Option String, setting.getD "" = "" → motive setting)
    (digits : ∀ text : String, text ≠ "" → (∀ c ∈ text.toList, Text.isDigit c = true) →
      motive (some text))
    (words : ∀ text : String, (∃ c ∈ text.toList, Text.isDigit c = false) → motive (some text))
    (setting : Option String) : motive setting := by
  by_cases hset : setting.getD "" = ""
  · exact unset setting hset
  cases setting with
  | none => exact absurd rfl hset
  | some text =>
    by_cases hdigits : ∀ c ∈ text.toList, Text.isDigit c = true
    · exact digits text hset hdigits
    · exact words text (by simpa using hdigits)

theorem IsNumber.isDigit {cs : List Char} {n : Level} (h : IsNumber cs n) :
    ∀ c ∈ cs, Text.isDigit c = true := by
  obtain ⟨-, digits, hdigits, -⟩ := h
  exact Text.isDigit_of_digitsOf hdigits

theorem asks_of_resolve {setting : Option String} {default level : Level}
    (h : resolve setting default = .ok level) : Asks default setting level := by
  induction setting using cases_setting with
  | unset setting hset =>
    rw [resolve_unset hset] at h
    cases h
    exact .unset hset
  | digits text hne hdigits =>
    rw [resolve_digits hne hdigits] at h
    cases hread : Text.readInt? text.toList with
    | none =>
      rw [hread] at h
      cases h
    | some n =>
      rw [hread] at h
      cases h
      have hne' : text.toList ≠ [] := by simpa using hne
      obtain ⟨ds, hds, hshort, hn⟩ := (Text.readInt?_eq_some_iff hne' hdigits).mp hread
      exact .number ⟨hne', ds, hds, hn⟩ hshort
  | words text hwords =>
    rw [resolve_words hwords] at h
    cases hget : Assoc.get? (spelled text.toList) names with
    | some named =>
      rw [hget] at h
      cases h
      exact .named (isNamed_iff.mpr hget)
    | none =>
      rw [hget] at h
      cases h
      refine .other (fun n hn => ?_) (fun named hnamed => ?_) hwords
      · obtain ⟨c, hmem, hc⟩ := hwords
        simp [hn.isDigit c hmem] at hc
      · rw [isNamed_iff, hget] at hnamed
        cases hnamed

theorem Asks.resolve_eq {setting : Option String} {default level : Level}
    (h : Asks default setting level) : resolve setting default = .ok level := by
  cases h with
  | unset hset => exact resolve_unset hset default
  | @number text n hnumber hshort =>
    have hne : text ≠ "" := by simpa using hnumber.1
    obtain ⟨hne', ds, hds, rfl⟩ := hnumber
    have hdigits := Text.isDigit_of_digitsOf hds
    have hread := (Text.readInt?_eq_some_iff hne' hdigits).mpr ⟨ds, hds, hshort, rfl⟩
    rw [resolve_digits hne hdigits, hread]
    rfl
  | named hnamed =>
    rw [resolve_words hnamed.exists_isDigit_eq_false, isNamed_iff.mp hnamed]
    rfl
  | @other text _ hnamed hwords =>
    have hget : Assoc.get? (spelled text.toList) names = none :=
      Option.eq_none_iff_forall_ne_some.mpr fun level hget => hnamed level (isNamed_iff.mpr hget)
    rw [resolve_words hwords, hget]
    rfl

theorem resolve_eq_ok_iff {setting : Option String} {default level : Level} :
    resolve setting default = .ok level ↔ Asks default setting level :=
  ⟨asks_of_resolve, Asks.resolve_eq⟩

theorem resolve_eq_error_iff {setting : Option String} {default : Level} {e : Error} :
    resolve setting default = .error e ↔ e = .badValue ∧ Unreadable setting := by
  induction setting using cases_setting with
  | unset setting hset =>
    refine iff_of_false (by simp [resolve_unset hset]) ?_
    rintro ⟨-, text, rfl, -, hdigits⟩
    simp [show text = "" from hset] at hdigits
  | digits text hne hdigits =>
    have hnone : Unreadable (some text) ↔ Text.readInt? text.toList = none := by
      rw [Text.readInt?_eq_none_iff (by simpa using hne) hdigits]
      constructor
      · rintro ⟨_, heq, -, hfault⟩
        cases heq
        exact hfault
      · exact fun hfault => ⟨text, rfl, hdigits, hfault⟩
    rw [resolve_digits hne hdigits, hnone]
    cases Text.readInt? text.toList <;> simp [eq_comm]
  | words text hwords =>
    refine iff_of_false (by simp [resolve_words hwords]) ?_
    rintro ⟨-, _, heq, hdigits, -⟩
    cases heq
    obtain ⟨c, hmem, hc⟩ := hwords
    simp [hdigits c hmem] at hc

end Level

/-! ## The first use of a logger -/

namespace LogSession

variable {s : LogSession}

theorem run_bind {α β : Type} (x : LogStep α) (f : α → LogStep β) (s : LogSession) :
    (x >>= f).run s =
      match x.run s with
      | .ok a s' => (f a).run s'
      | .error e s' => .error e s' := by
  simp only [EStateM.run, bind, EStateM.bind]
  cases x s <;> rfl

theorem configure_ready (h : s.handler = true) (level? : Option Level) :
    (configure level?).run s = .ok () s := by
  rw [configure, run_bind]
  show (if s.handler then _ else _ : LogStep Unit).run s = _
  rw [if_pos h]
  rfl

/-- The handler is installed first, and stays also where the level cannot be read. -/
theorem configure_first (h : s.handler = false) :
    (configure none).run s =
      match Level.resolve s.setting Level.warning with
      | .ok level => .ok () { s with handler := true, level := level }
      | .error e => .error e { s with handler := true } := by
  rw [configure, run_bind]
  show (if s.handler then _ else _ : LogStep Unit).run s = _
  rw [if_neg (by simp [h]), run_bind]
  cases Level.resolve s.setting Level.warning <;> rfl

theorem logger_ready (h : s.handler = true) (name : String) :
    (logger name).run s = .ok (loggerName name) s := by
  rw [logger, run_bind, configure_ready h]
  rfl

theorem logger_first (h : s.handler = false) (name : String) :
    (logger name).run s =
      match Level.resolve s.setting Level.warning with
      | .ok level => .ok (loggerName name) { s with handler := true, level := level }
      | .error e => .error e { s with handler := true } := by
  rw [logger, run_bind, configure_first h]
  cases Level.resolve s.setting Level.warning <;> rfl

end LogSession

namespace Backend

variable {env : Environment} {name : String} {b : Backend} {s : LogSession}

theorem create_eq (hname : resolve name = .ok b) (types : TypeCatalogue) :
    create env (some name) types = b.buildLogged types := by
  rw [create, choose, hname]

/-- Where logging is in use, a dialect is built as it is. -/
theorem buildLogged_ready (h : s.handler = true) (types : TypeCatalogue) :
    (b.buildLogged types).run s = .ok (b.build types) s := by
  rw [buildLogged, LogSession.run_bind, LogSession.logger_ready h]
  dsimp only
  rw [LogSession.run_bind, LogSession.logger_ready h]
  rfl

theorem buildLogged_first (h : s.handler = false) (types : TypeCatalogue) :
    (b.buildLogged types).run s =
      match Level.resolve s.setting Level.warning with
      | .ok level => .ok (b.build types) { s with handler := true, level := level }
      | .error e => .error e { s with handler := true } := by
  rw [buildLogged, LogSession.run_bind, LogSession.logger_first h]
  cases Level.resolve s.setting Level.warning with
  | error e => rfl
  | ok level =>
    dsimp only
    rw [LogSession.run_bind, LogSession.logger_ready rfl]
    rfl

/-- The first dialect of a process can be created unless the variable for the level is unreadable,
and a dialect of any backend is stopped by the same texts. What stops the first dialect does not
stop a second one: it finds the handler in its place, and asks for no level. -/
theorem creation_stopped_iff_unreadable (env : Environment) (default : Level)
    (types : TypeCatalogue) (hname : resolve name = .ok b) :
    (∀ level, Level.resolve env.logLevel default = .ok level ↔
      Level.Asks default env.logLevel level) ∧
    (∀ e, Level.resolve env.logLevel default = .error e ↔
      e = .badValue ∧ Level.Unreadable env.logLevel) ∧
    ((∃ level, Level.Asks Level.warning env.logLevel level ∧
        (create env (some name) types).run (.start env) =
          .ok (b.build types) { LogSession.start env with handler := true, level := level }) ↔
      ¬Level.Unreadable env.logLevel) ∧
    (∀ e s, (create env (some name) types).run (.start env) = .error e s ↔
      e = .badValue ∧ Level.Unreadable env.logLevel ∧
        s = { LogSession.start env with handler := true }) ∧
    (create env (some name) types).run { LogSession.start env with handler := true } =
      .ok (b.build types) { LogSession.start env with handler := true } ∧
    (b.build types).result = .ok (b.dialect types) := by
  have hrun : (create env (some name) types).run (.start env) =
      match Level.resolve env.logLevel Level.warning with
      | .ok level =>
        .ok (b.build types) { LogSession.start env with handler := true, level := level }
      | .error e => .error e { LogSession.start env with handler := true } := by
    rw [create_eq hname]
    exact buildLogged_first rfl types
  refine ⟨fun _ => Level.resolve_eq_ok_iff, fun _ => Level.resolve_eq_error_iff, ?_, ?_, ?_,
    b.result_build types⟩
  · rw [hrun]
    cases hlevel : Level.resolve env.logLevel Level.warning with
    | ok level =>
      refine iff_of_true ⟨level, Level.resolve_eq_ok_iff.mp hlevel, rfl⟩ fun hfault => ?_
      rw [Level.resolve_eq_error_iff.mpr ⟨rfl, hfault⟩] at hlevel
      cases hlevel
    | error e =>
      refine iff_of_false ?_ (not_not_intro (Level.resolve_eq_error_iff.mp hlevel).2)
      rintro ⟨_, -, hcontra⟩
      cases hcontra
  · intro e s
    rw [hrun]
    cases hlevel : Level.resolve env.logLevel Level.warning with
    | ok level =>
      refine iff_of_false (by simp) ?_
      rintro ⟨-, hfault, -⟩
      rw [Level.resolve_eq_error_iff.mpr ⟨rfl, hfault⟩] at hlevel
      cases hlevel
    | error e' =>
      obtain ⟨rfl, hfault⟩ := Level.resolve_eq_error_iff.mp hlevel
      simp [hfault, eq_comm]
  · rw [create_eq hname]
    exact buildLogged_ready rfl types

/-- A level in letters of several alphabets, between blanks. -/
theorem spacedLevel_read :
    resolve " PgSQL+psycopg" = .ok .postgresql ∧
      Level.resolve (some "\tınfo ") Level.error = .ok Level.info ∧
      ∃ s, (create { logLevel := some "\tınfo " } (some " PgSQL+psycopg") .standard).run
          (.start { logLevel := some "\tınfo " }) =
        .ok (postgresql.build .standard) s := by
  have hname : resolve " PgSQL+psycopg" = .ok .postgresql := rfl
  obtain ⟨hasks, -, hcreated, -⟩ := creation_stopped_iff_unreadable
    { logLevel := some "\tınfo " } Level.error .standard hname
  have hnamed : Level.IsNamed "\tınfo ".toList Level.info := by
    show (_, _) ∈ Level.names
    decide +kernel
  have hreadable : ¬Level.Unreadable (some "\tınfo ") := by
    rintro ⟨_, heq, hdigits, -⟩
    cases heq
    exact absurd (hdigits ' ' (by decide)) (by decide)
  obtain ⟨level, -, hrun⟩ := hcreated.mpr hreadable
  exact ⟨hname, (hasks Level.info).mpr (.named hnamed), _, hrun⟩

/-- A superscript is neither a number nor a name, and stops the creation of a dialect. -/
theorem superscript_stops_creation :
    (∀ n, ¬Level.IsNumber "²".toList n) ∧ (∀ level, ¬Level.IsNamed "²".toList level) ∧
      resolve "ansi" = .ok .ansi ∧
      Level.resolve (some "²") Level.warning = .error .badValue ∧
      (create { logLevel := some "²" } (some "ansi") .standard).run
          (.start { logLevel := some "²" }) =
        .error .badValue { setting := some "²", handler := true } := by
  refine ⟨?_, fun level h => ?_, rfl, rfl, rfl⟩
  · rintro n ⟨-, digits, hdigits, -⟩
    exact Text.decimalDigit?_of_digitsOf hdigits '²' (by decide) rfl
  · obtain ⟨c, hmem, hc⟩ := h.exists_isDigit_eq_false
    have hdigits : "²".toList.all Text.isDigit = true := by decide
    simp [List.all_eq_true.mp hdigits c hmem] at hc

end Backend

end SqlRender

import SqlRender.Backend.Selection
import SqlRender.Proofs.Respacing

/-!
# Spellings of a backend's name

The letters of the alphabet may be large or small in a name, blanks may stand around it, and a
driver may follow it behind a plus sign. The same name can be the scheme of a data source name, as
long as nothing in the server can be taken for one of the signs that end a server.

* `Text.lowerFrom_map_toLower`: small letters do not depend on the case of the alphabet.
* `Backend.normalName_congr`, `Backend.normalName_driver`: spellings that are compared alike.
* `DataSource.scheme_append`: the scheme of a data source name.
* `Backend.resolve_spelling`: all these spellings choose the same backend.
-/

namespace SqlRender

/-! ## Letters of the alphabet -/

namespace Text

/-- A character and its small letter in the alphabet are treated alike. -/
theorem alike_toLower (c : Char) :
    c.toLower.toLower = c.toLower ∧ isBlank c.toLower = isBlank c ∧ isCased c.toLower = isCased c ∧
      isIgnorable c.toLower = isIgnorable c ∧ small c.toLower = small c ∧
      (c.toLower = 'Σ' ↔ c = 'Σ') ∧ (c.toLower = 'İ' ↔ c = 'İ') := by
  by_cases hc : c.val ≥ 'A'.val ∧ c.val ≤ 'Z'.val
  · obtain ⟨hge, hle⟩ : 65 ≤ c.toNat ∧ c.toNat ≤ 90 := by simpa [UInt32.le_iff_toNat_le] using hc
    rw [← Char.ofNat_toNat c]
    generalize c.toNat = n at hge hle ⊢
    revert n
    decide +kernel
  · have hsame : c.toLower = c := dif_neg hc
    simp [hsame]

theorem casedNext_map_toLower (cs : List Char) :
    casedNext (cs.map Char.toLower) = casedNext cs := by
  induction cs with
  | nil => rfl
  | cons c cs ih =>
    obtain ⟨-, -, hcased, hignorable, -⟩ := alike_toLower c
    simp only [List.map_cons, casedNext, hignorable, hcased, ih]

theorem lowerFrom_map_toLower (inWord : Bool) (cs : List Char) :
    lowerFrom inWord (cs.map Char.toLower) = lowerFrom inWord cs := by
  induction cs generalizing inWord with
  | nil => rfl
  | cons c cs ih =>
    obtain ⟨-, -, hcased, hignorable, hsmall, hsigma, hdotted⟩ := alike_toLower c
    simp only [List.map_cons, lowerFrom, hignorable, hcased, hsmall, casedNext_map_toLower, ih,
      hsigma, hdotted]

theorem strip_map_toLower (cs : List Char) :
    strip (cs.map Char.toLower) = (strip cs).map Char.toLower := by
  have hblank : isBlank ∘ Char.toLower = isBlank := funext fun c => (alike_toLower c).2.1
  rw [strip, strip, stripLeft, stripLeft, List.dropWhile_map, hblank, stripRight, stripRight,
    ← List.map_reverse, List.dropWhile_map, hblank, List.map_reverse]

/-! ## Blanks and drivers -/

theorem strip_blanks {front back : List Char} (hfront : ∀ c ∈ front, isBlank c = true)
    (hback : ∀ c ∈ back, isBlank c = true) (cs : List Char) :
    strip (front ++ cs ++ back) = strip cs := by
  have hnil : stripRight back = [] := by simpa [stripRight] using hback
  have hright : stripRight (front ++ cs ++ back) = stripRight (front ++ cs) := by
    rw [stripRight_append, if_pos hnil]
  rw [strip_congr hright, strip, stripLeft, List.dropWhile_append_of_pos hfront]
  rfl

/-- A sign that is no blank keeps the stripped text before it. -/
theorem IsStripped.strip_append_cons {cs : List Char} (h : IsStripped cs) {sign : Char}
    (hsign : isBlank sign = false) (more : List Char) :
    strip (cs ++ sign :: more) = cs ++ sign :: stripRight more := by
  have hcore : IsStripped (cs ++ [sign]) := by
    refine ⟨fun c hc => ?_, fun c hc => ?_⟩
    · cases cs with
      | nil =>
        cases hc
        exact hsign
      | cons first cs => exact h.first c hc
    · rw [List.getLast?_concat] at hc
      cases hc
      exact hsign
  rw [List.append_cons, strip_append (by simp) hcore, ← List.append_cons]

theorem takeWhile_append_stop {p : Char → Bool} {stop : Char} (h : p stop = false)
    (cs more : List Char) : (cs ++ stop :: more).takeWhile p = cs.takeWhile p := by
  induction cs with
  | nil => simp [h]
  | cons c cs ih => simp only [List.cons_append, List.takeWhile_cons, ih]

theorem casedNext_append_plus (cs more : List Char) :
    casedNext (cs ++ '+' :: more) = casedNext cs := by
  induction cs with
  | nil => rfl
  | cons c cs ih => simp only [List.cons_append, casedNext, ih]

/-- A plus sign ends a word. -/
theorem lowerFrom_append_plus (inWord : Bool) (cs more : List Char) :
    lowerFrom inWord (cs ++ '+' :: more) = lowerFrom inWord cs ++ '+' :: lowerFrom false more := by
  induction cs generalizing inWord with
  | nil => rfl
  | cons c cs ih =>
    simp only [List.cons_append, lowerFrom, casedNext_append_plus, ih]
    split
    · rfl
    · split <;> rfl

end Text

namespace Backend

/-- Names that differ in the case of the alphabet and in blanks around them are compared alike. -/
theorem normalName_congr {name other front back : String}
    (hname : other.toList.map Char.toLower = name.toList.map Char.toLower)
    (hfront : ∀ c ∈ front.toList, Text.isBlank c = true)
    (hback : ∀ c ∈ back.toList, Text.isBlank c = true) :
    normalName (front ++ other ++ back) = normalName name := by
  have hlower : ∀ cs, Text.lowerFrom false (Text.strip cs) =
      Text.lowerFrom false (Text.strip (cs.map Char.toLower)) := by
    intro cs
    rw [Text.strip_map_toLower, Text.lowerFrom_map_toLower]
  rw [normalName, normalName, String.toList_append, String.toList_append,
    Text.strip_blanks hfront hback, hlower other.toList, hname, ← hlower name.toList]

/-- What follows a plus sign is passed over. -/
theorem normalName_driver {name : String} (h : Text.IsStripped name.toList) (driver : String) :
    normalName (name ++ "+" ++ driver) = normalName name := by
  have hname : Text.strip name.toList = name.toList := by
    simpa using @Text.IsStripped.strip_eq name.toList [] [] h (by simp) (by simp)
  have htext : (name ++ "+" ++ driver).toList = name.toList ++ '+' :: driver.toList := by simp
  rw [normalName, normalName, htext, h.strip_append_cons (by decide), Text.lowerFrom_append_plus,
    hname, Text.takeWhile_append_stop (by decide)]

theorem resolve_eq_ok_congr {name other : String} (h : normalName other = normalName name)
    (b : Backend) : resolve other = .ok b ↔ resolve name = .ok b := by
  simp only [resolve, h]
  cases ofName? ((Assoc.get? (normalName name) aliases).getD (normalName name)) <;> simp

theorem resolve_name (b : Backend) : resolve b.name = .ok b := by
  cases b <;> rfl

end Backend

/-! ## Data source names -/

namespace DataSource

/-- A letter, and then letters, digits and three signs. -/
def isScheme : List Char → Bool
  | [] => false
  | first :: more => first.isAlpha && more.all isSchemeChar

/-- The characters that stay in a data source name. -/
def isKept (c : Char) : Bool := c ≠ '\t' && c ≠ '\r' && c ≠ '\n'

/-- The characters that do not end a server. -/
def inServer (c : Char) : Bool := c ≠ '/' && c ≠ '?' && c ≠ '#'

/-- The character is no compatibility form of a sign that has a meaning in a server. -/
def isPlain (c : Char) : Bool := c.toNat ∉ ambiguous

theorem isSchemeChar_of_mem {cs : List Char} (h : isScheme cs = true) :
    ∀ c ∈ cs, isSchemeChar c = true := by
  cases cs with
  | nil => cases h
  | cons first more =>
    rw [isScheme, Bool.and_eq_true, List.all_eq_true] at h
    intro c hc
    rcases List.mem_cons.mp hc with rfl | hc
    · simp [isSchemeChar, Char.isAlphanum, h.1]
    · exact h.2 c hc

theorem eq_of_not_isKept {c : Char} (h : isKept c = false) : c = '\t' ∨ c = '\r' ∨ c = '\n' := by
  simp only [isKept, ne_eq, decide_not, Bool.and_eq_false_iff, Bool.not_eq_false',
    decide_eq_true_eq] at h
  exact or_assoc.mp h

theorem isKept_of_isSchemeChar {c : Char} (h : isSchemeChar c = true) : isKept c = true := by
  rw [← Bool.not_eq_false]
  intro hc
  rcases eq_of_not_isKept hc with rfl | rfl | rfl <;> cases h

theorem clean_append {cs : List Char} (h : isScheme cs = true) (rest : List Char) :
    clean (cs ++ ':' :: rest) = cs ++ ':' :: rest.filter isKept := by
  have hkept : cs.filter isKept = cs := by
    rw [List.filter_eq_self]
    intro c hc
    exact isKept_of_isSchemeChar (isSchemeChar_of_mem h c hc)
  cases cs with
  | nil => cases h
  | cons first more =>
    have hfirst : ¬first.toNat ≤ 0x20 := by
      have hcontrol : ∀ n ≤ 0x20, (Char.ofNat n).isAlpha = false := by decide
      intro hle
      have hletter := hcontrol first.toNat hle
      rw [Char.ofNat_toNat] at hletter
      rw [isScheme, hletter, Bool.false_and] at h
      cases h
    have hclean : clean (first :: more ++ ':' :: rest) =
        (first :: more ++ ':' :: rest).filter isKept := by
      rw [clean, List.cons_append, List.dropWhile_cons_of_neg (by simpa using hfirst)]
      rfl
    rw [hclean, List.filter_append, hkept]
    rfl

theorem splitScheme_append {cs : List Char} (h : isScheme cs = true) (rest : List Char) :
    splitScheme (cs ++ ':' :: rest) = (cs.map Char.toLower, rest) := by
  have hcolon : ∀ c ∈ cs, decide (c ≠ ':') = true := by
    intro c hc
    refine decide_eq_true ?_
    rintro rfl
    cases isSchemeChar_of_mem h _ hc
  have hscheme : (cs ++ ':' :: rest).takeWhile (· ≠ ':') = cs := by
    rw [List.takeWhile_append_of_pos hcolon, List.takeWhile_cons_of_neg (by simp), List.append_nil]
  have hrest : (cs ++ ':' :: rest).dropWhile (· ≠ ':') = ':' :: rest := by
    rw [List.dropWhile_append_of_pos hcolon, List.dropWhile_cons_of_neg (by simp)]
  rw [splitScheme, hscheme, hrest]
  cases cs with
  | nil => cases h
  | cons first more => exact if_pos h

/-- What is taken out of a data source name neither ends a server nor counts in it. -/
theorem all_isPlain_filter (cs : List Char) :
    ((cs.filter isKept).takeWhile inServer).all isPlain = (cs.takeWhile inServer).all isPlain := by
  induction cs with
  | nil => rfl
  | cons c cs ih =>
    cases hc : isKept c with
    | true =>
      rw [List.filter_cons_of_pos hc, List.takeWhile_cons, List.takeWhile_cons]
      cases inServer c <;> simp [ih]
    | false =>
      have hplain : inServer c = true ∧ isPlain c = true := by
        rcases eq_of_not_isKept hc with rfl | rfl | rfl <;> decide
      rw [List.filter_cons_of_neg (by simp [hc]), ih, List.takeWhile_cons_of_pos hplain.1,
        List.all_cons, hplain.2, Bool.true_and]

theorem isServer_of_no_brackets {cs : List Char} (hopen : '[' ∉ cs) (hclose : ']' ∉ cs) :
    isServer cs = cs.all isPlain := by
  rw [isServer, if_neg (by simp [hopen, hclose]), Bool.true_and]
  rfl

/-- The scheme of a data source name without brackets behind it. -/
theorem scheme_append {name : String} (h : isScheme name.toList = true) {rest : String}
    (hopen : '[' ∉ rest.toList) (hclose : ']' ∉ rest.toList) :
    scheme (name ++ "://" ++ rest) =
      if (server ("//" ++ rest).toList).all isPlain then
        .ok (String.ofList (name.toList.map Char.toLower))
      else .error .badValue := by
  have hdsn : (name ++ "://" ++ rest).toList =
      name.toList ++ ':' :: '/' :: '/' :: rest.toList := by simp
  have hserver : server ("//" ++ rest).toList = rest.toList.takeWhile inServer := by
    rw [String.toList_append]
    rfl
  have hmem : ∀ c ∈ (rest.toList.filter isKept).takeWhile inServer, c ∈ rest.toList := by
    intro c hc
    exact List.mem_of_mem_filter ((List.takeWhile_sublist _).mem hc)
  rw [scheme, hdsn, clean_append h, splitScheme_append h, hserver, ← all_isPlain_filter,
    ← isServer_of_no_brackets (fun hc => hopen (hmem _ hc)) (fun hc => hclose (hmem _ hc))]
  rfl

/-- The scheme of a data source name chooses the backend, unless its server is refused. -/
theorem backend_append {name : String} (h : isScheme name.toList = true) {rest : String}
    (hopen : '[' ∉ rest.toList) (hclose : ']' ∉ rest.toList) {b : Backend}
    (hb : Backend.resolve name = .ok b) :
    backend (name ++ "://" ++ rest) =
      if (server ("//" ++ rest).toList).all isPlain then .ok b else .error .badValue := by
  have hne : String.ofList (name.toList.map Char.toLower) ≠ "" := by
    intro hempty
    have hnil := congrArg String.toList hempty
    rw [String.toList_ofList] at hnil
    rw [List.map_eq_nil_iff.mp hnil] at h
    cases h
  have hlower : Backend.resolve (String.ofList (name.toList.map Char.toLower)) = .ok b := by
    have hname := @Backend.normalName_congr name
      (String.ofList (name.toList.map Char.toLower)) "" ""
      (by simp [(Text.alike_toLower _).1]) (by simp) (by simp)
    rw [String.empty_append, String.append_empty] at hname
    exact (Backend.resolve_eq_ok_congr hname b).mpr hb
  rw [backend, scheme_append h hopen hclose]
  split
  · show (if String.ofList (name.toList.map Char.toLower) = "" then
        (throw .schemeMissing : Except Error Backend) else _) = _
    rw [if_neg hne, hlower]
  · rfl

end DataSource

/-! ## Spellings -/

/-- A backend is chosen by its own name, and a name that chooses it does so in letters of either
case and with blanks around it. A driver behind a plus sign changes nothing. As the scheme of a data
source name without brackets the name chooses the same backend, unless some character of the server
is a compatibility form of a sign that has a meaning there: then the name is refused. -/
theorem Backend.resolve_spelling (name : String) :
    (∀ b, resolve name = .ok b →
      resolve b.name = .ok b ∧
      ∀ front other back : String, (∀ c ∈ front.toList, Text.isBlank c = true) →
        (∀ c ∈ back.toList, Text.isBlank c = true) →
        other.toList.map Char.toLower = name.toList.map Char.toLower →
        resolve (front ++ other ++ back) = .ok b) ∧
    (Text.IsStripped name.toList → ∀ (driver : String) (b : Backend),
      resolve (name ++ "+" ++ driver) = .ok b ↔ resolve name = .ok b) ∧
    ∀ b, resolve name = .ok b → DataSource.isScheme name.toList = true →
      ∀ rest : String, '[' ∉ rest.toList → ']' ∉ rest.toList → ∀ types,
        (DataSource.backend (name ++ "://" ++ rest) >>= fun b => (b.build types).result) =
          if (DataSource.server ("//" ++ rest).toList).all DataSource.isPlain then
            .ok (b.dialect types)
          else .error .badValue := by
  refine ⟨fun b hb => ⟨resolve_name b, ?_⟩, fun hname driver => ?_, ?_⟩
  · intro front other back hfront hback hother
    exact (resolve_eq_ok_congr (normalName_congr hother hfront hback) b).mpr hb
  · exact resolve_eq_ok_congr (normalName_driver hname driver)
  · intro b hb hscheme rest hopen hclose types
    rw [DataSource.backend_append hscheme hopen hclose hb]
    split
    · exact b.result_build types
    · rfl

/-- An alias with a driver, in several spellings. -/
theorem mariadb_spelled :
    Backend.resolve "MariaDB" = .ok .mysql ∧
      Backend.resolve "\tmARIAdb\u3000" = .ok .mysql ∧
      Backend.resolve "MariaDB+py MySQL " = .ok .mysql ∧
      (DataSource.backend "MariaDB://root@db:3306/shop?q=\u2100" >>= fun b =>
        (b.build .standard).result) = .ok (Backend.mysql.dialect .standard) := by
  have hname : Backend.resolve "MariaDB" = .ok .mysql := rfl
  obtain ⟨hsame, hdriver, hdsn⟩ := Backend.resolve_spelling "MariaDB"
  refine ⟨hname, ?_, ?_, ?_⟩
  · exact (hsame .mysql hname).2 "\t" "mARIAdb" "\u3000" (List.all_eq_true.mp (by decide +kernel))
      (List.all_eq_true.mp (by decide +kernel)) (by decide +kernel)
  · exact (hdriver (by decide +kernel) "py MySQL " .mysql).mpr hname
  · exact (hdsn .mysql hname (by decide +kernel) "root@db:3306/shop?q=\u2100" (by decide +kernel)
      (by decide +kernel) .standard).trans (if_pos (by decide +kernel))

/-- An account sign in place of a server has a slash in its compatibility form. -/
theorem accountSign_refused :
    Backend.resolve "mysql" = .ok .mysql ∧ DataSource.isScheme "mysql".toList = true ∧
      DataSource.backend ("mysql" ++ "://" ++ "\u2100") = .error .badValue :=
  ⟨rfl, by decide +kernel, rfl⟩

end SqlRender

import SpaceWorks.Host.PointerCutover

/-!
# The text of a database pointer

`pointer_text`, `parse_pointer_text` and `write_pointer_atomic` of `host_pointer.py`.  A text is the
list of its UTF-8 characters; `splitlines` splits at more of them than `pointer_text` refuses.
-/

namespace SpaceWorks
namespace PointerFiles

open Checked List Option
open Cutovers (PointerRecord validatePointer)

section Lines

variable {c : Char} {text line : List Char}

/-- The characters that end a line for `str.splitlines`. -/
def isLineBreak (c : Char) : Bool :=
  let n := c.toNat
  (10 ≤ n && n ≤ 13) || (28 ≤ n && n ≤ 30) || n = 0x85 || n = 0x2028 || n = 0x2029

def splitlines : List Char → List (List Char)
  | [] => []
  | '\r' :: '\n' :: text => [] :: splitlines text
  | c :: text =>
    if isLineBreak c then [] :: splitlines text
    else match splitlines text with
      | [] => [[c]]
      | line :: lines => (c :: line) :: lines

def OneLine (text : List Char) : Prop :=
  text.any isLineBreak = false

instance (text : List Char) : Decidable (OneLine text) :=
  inferInstanceAs (Decidable (text.any isLineBreak = false))

/-- Text mode: every line ending is a line feed. -/
def universalNewlines : List Char → List Char
  | [] => []
  | '\r' :: '\n' :: text => '\n' :: universalNewlines text
  | c :: text => (if c = '\r' then '\n' else c) :: universalNewlines text

theorem splitlines_cons (h : isLineBreak c = false) :
    splitlines (c :: text) = match splitlines text with
      | [] => [[c]]
      | line :: lines => (c :: line) :: lines := by
  rw [splitlines, if_neg (by simp [h])]
  rintro _ rfl -
  exact absurd h (by decide)

theorem splitlines_append (hline : OneLine line) (hc : isLineBreak c = true) (hreturn : c ≠ '\r') :
    splitlines (line ++ c :: text) = line :: splitlines text := by
  induction line with
  | nil =>
    rw [nil_append, splitlines, if_pos hc]
    exact fun _ hcr => absurd hcr hreturn
  | cons _ _ ih =>
    simp only [OneLine, any_cons, Bool.or_eq_false_iff] at hline
    rw [cons_append, splitlines_cons hline.1, ih hline.2]

theorem oneLine_of_mem (h : line ∈ splitlines text) : OneLine line := by
  induction text using splitlines.induct generalizing line with
  | case1 => simp [splitlines] at h
  | case2 _ ih =>
    rw [splitlines, mem_cons] at h
    exact h.elim (fun hline => hline ▸ rfl) ih
  | case3 _ _ hpair hc ih =>
    rw [splitlines, if_pos hc, mem_cons] at h
    · exact h.elim (fun hline => hline ▸ rfl) ih
    · exact hpair
  | case4 _ _ _ hc hnil =>
    rw [splitlines_cons (by simpa using hc), hnil, mem_singleton] at h
    simpa [h, OneLine] using hc
  | case5 _ _ _ hc first _ hlines ih =>
    rw [splitlines_cons (by simpa using hc), hlines, mem_cons] at h
    rcases h with rfl | h
    · have hfirst : OneLine first := ih (hlines ▸ mem_cons_self)
      simpa [OneLine, hfirst] using And.intro hc hfirst
    · exact ih (hlines ▸ mem_cons_of_mem _ h)

theorem OneLine.subset (h : OneLine text) (hsub : line ⊆ text) : OneLine line := by
  simp only [OneLine, List.any_eq_false] at h ⊢
  exact fun c hc => h c (hsub hc)

theorem exists_break (h : ¬ OneLine text) :
    ∃ line c rest, text = line ++ c :: rest ∧ OneLine line ∧ isLineBreak c = true := by
  induction text with
  | nil => exact absurd rfl h
  | cons d text ih =>
    by_cases hd : isLineBreak d = true
    · exact ⟨[], d, text, rfl, rfl, hd⟩
    · have hd : isLineBreak d = false := by simpa using hd
      obtain ⟨line, c, rest, rfl, hline, hc⟩ := ih fun hone => h (by simpa [OneLine, hd] using hone)
      exact ⟨d :: line, c, rest, rfl, by simpa [OneLine, hd] using hline, hc⟩

theorem universalNewlines_eq_self (h : '\r' ∉ text) : universalNewlines text = text := by
  induction text using universalNewlines.induct with
  | case1 => rfl
  | case2 => exact absurd mem_cons_self h
  | case3 _ _ hpair ih =>
    rw [mem_cons, not_or] at h
    rw [universalNewlines, ih h.2, if_neg (Ne.symm h.1)]
    exact hpair

/-- `str.strip()` of a line. -/
def strip (line : List Char) : List Char :=
  (Python.strip (String.ofList line)).toList

theorem strip_subset (line : List Char) : strip line ⊆ line := by
  intro c hc
  simp only [strip, Python.strip, String.toList_ofList, mem_reverse] at hc
  have hc := (dropWhile_sublist _).subset hc
  exact (dropWhile_sublist _).subset (mem_reverse.mp hc)

theorem strip_append {body : List Char} (rest : List Char) (hne : body ≠ [])
    (hhead : ∀ c, body.head? = some c → Python.isSpace c = false)
    (hlast : ∀ c, body.getLast? = some c → Python.isSpace c = false) :
    strip (body ++ rest) = body ++ (rest.reverse.dropWhile Python.isSpace).reverse := by
  have hfront : (body ++ rest).dropWhile Python.isSpace = body ++ rest :=
    Python.dropWhile_isSpace_of_head fun c hc => hhead c (by
      rwa [List.head?_append_of_ne_nil _ hne] at hc)
  have hback : body.reverse.dropWhile Python.isSpace = body.reverse :=
    Python.dropWhile_isSpace_of_head fun c hc => hlast c (by rwa [List.head?_reverse] at hc)
  rw [strip, Python.strip, String.toList_ofList, String.toList_ofList, hfront, reverse_append,
    dropWhile_append]
  split
  · next hspaces =>
      rw [hback, List.isEmpty_iff.mp hspaces, reverse_reverse, reverse_nil, append_nil]
  · rw [reverse_append, reverse_reverse]

theorem strip_eq_self (hne : line ≠ [])
    (hhead : ∀ c, line.head? = some c → Python.isSpace c = false)
    (hlast : ∀ c, line.getLast? = some c → Python.isSpace c = false) : strip line = line := by
  simpa using strip_append [] hne hhead hlast

end Lines

def urlKey : List Char := "DATABASE_URL".toList

def generationKey : List Char := "SPACEWORKS_DB_POINTER_GENERATION".toList

def pointerText (record : PointerRecord) : Except String (List Char) := do
  Cutovers.pointerText record
  let digits ← orRefuse (Python.str? record.generation)
    "Exceeds the limit for integer string conversion."
  pure (urlKey ++ '=' :: '\'' :: record.databaseUrl.toList ++ '\'' :: '\n' ::
    (generationKey ++ '=' :: digits ++ ['\n']))

/-- `line.split("=", 1)` of a line that holds the sign. -/
def splitAssignment : List Char → Option (List Char × List Char)
  | [] => none
  | c :: line =>
    if c = '=' then some ([], line)
    else (splitAssignment line).map fun parts => (c :: parts.1, parts.2)

/-- The quotes of a URL, or the signs that only quotes make harmless. -/
def unquote (item : List Char) : Except String (List Char) :=
  if item.head? = some '\'' ∨ item.getLast? = some '\'' then do
    require (2 ≤ item.length ∧ item.head? = some '\'' ∧ item.getLast? = some '\'')
      "Database pointer URL quoting is invalid."
    pure item.tail.dropLast
  else do
    require ('$' ∉ item) "Database pointer URL must prevent interpolation."
    pure item

def valueOf (key item : List Char) : Except String (List Char) :=
  if key = urlKey then unquote item else pure item

/-- One turn of the loop of `parse_pointer_text`. -/
def assign (assignments : List (List Char × List Char)) (rawLine : List Char) :
    Except String (List (List Char × List Char)) :=
  let line := strip rawLine
  if line = [] ∨ line.head? = some '#' then pure assignments
  else do
    let (key, item) ← orRefuse (splitAssignment line)
      "Database pointer contains an invalid assignment."
    require (key ∉ assignments.map Prod.fst) "Database pointer contains a duplicate assignment."
    let item ← valueOf key item
    pure (assignments ++ [(key, item)])

def parsePointerText (value : List Char) : Except String PointerRecord := do
  match ← (splitlines value).foldlM assign [] with
  | [(first, url), (second, digits)] =>
    require (first = urlKey ∧ second = generationKey)
      "Database pointer must contain URL then generation only."
    let generation ← orRefuse (Python.int? digits) "Database pointer generation is invalid."
    require (url ≠ []) "Database pointer URL is missing."
    require (1 ≤ generation) "Database pointer generation must be positive."
    pure ⟨String.ofList url, generation.toNat⟩
  | _ => throw "Database pointer must contain URL then generation only."

/-- `read_pointer`; `owned`: by root, directory included. -/
def readPointer (owned : Bool) (file : List Char) : Except String PointerRecord := do
  require owned "Database pointer or parent directory is misowned."
  parsePointerText (universalNewlines file)

def writePointerAtomic (owned : Bool) (file : Option (List Char)) (record : PointerRecord)
    (expectedGeneration : Option Nat) (invalidates : Bool) : Except String (List Char) := do
  validatePointer record
  match file with
  | some file =>
    let current ← readPointer owned file
    require (expectedGeneration = some current.generation)
      "Database pointer expected generation is stale."
    require (current.generation < record.generation)
      "Database pointer generation must increase monotonically."
    require invalidates "Pointer transition requires capability invalidation."
  | none => require (expectedGeneration = none) "Database pointer expected generation is stale."
  require owned "Database pointer parent directory is not root-owned."
  pointerText record

theorem splitAssignment_append {key : List Char} (item : List Char) (h : '=' ∉ key) :
    splitAssignment (key ++ '=' :: item) = some (key, item) := by
  induction key with
  | nil => rfl
  | cons _ _ ih =>
    rw [mem_cons, not_or] at h
    rw [cons_append, splitAssignment, if_neg (Ne.symm h.1), ih h.2]
    rfl

theorem splitAssignment_subset {line key item : List Char}
    (h : splitAssignment line = some (key, item)) : item ⊆ line := by
  induction line generalizing key with
  | nil => cases h
  | cons _ _ ih =>
    rw [splitAssignment] at h
    split at h
    · cases h
      exact subset_cons_self _ _
    · obtain ⟨⟨_, _⟩, hrest, heq⟩ := map_eq_some_iff.mp h
      cases heq
      exact List.Subset.trans (ih hrest) (subset_cons_self _ _)

theorem unquote_subset {item value : List Char} (h : unquote item = .ok value) :
    value ⊆ item := by
  unfold unquote at h
  split at h
  · simp at h
    obtain ⟨-, -, rfl⟩ := h
    exact List.Subset.trans (dropLast_subset _) (tail_sublist _).subset
  · simp at h
    obtain ⟨-, -, rfl⟩ := h
    exact List.Subset.refl _

theorem pointerText_ok {record : PointerRecord} {text : List Char} :
    pointerText record = .ok text ↔ (record.databaseUrl ≠ "" ∧ 1 ≤ record.generation) ∧
      (∀ c ∈ record.databaseUrl.toList, c ≠ '\n' ∧ c ≠ '\r' ∧ c ≠ '\'') ∧
      ∃ digits, Python.str? record.generation = some digits ∧
        text = urlKey ++ '=' :: '\'' :: record.databaseUrl.toList ++ '\'' :: '\n' ::
          (generationKey ++ '=' :: digits ++ ['\n']) := by
  have hsafe : ∀ url : List Char, (url.any fun c => c == '\n' || c == '\r' || c == '\'') = false ↔
        ∀ c ∈ url, c ≠ '\n' ∧ c ≠ '\r' ∧ c ≠ '\'' := by
    simp [and_assoc]
  simp only [pointerText, Cutovers.pointerText, validatePointer, bind_ok, require_ok,
    orRefuse_ok, pure_ok, hsafe]
  constructor
  · rintro ⟨-, ⟨-, ⟨-, hurl, hgeneration⟩, hall⟩, digits, hdigits, rfl⟩
    exact ⟨⟨hurl, hgeneration⟩, hall, digits, hdigits, rfl⟩
  · rintro ⟨⟨hurl, hgeneration⟩, hall, digits, hdigits, rfl⟩
    exact ⟨⟨⟩, ⟨⟨⟩, ⟨⟨⟩, hurl, hgeneration⟩, hall⟩, digits, hdigits, rfl⟩

theorem assign_line {assignments : List (List Char × List Char)} {key item : List Char}
    (rawLine : List Char) (hstrip : strip rawLine = key ++ '=' :: item) (hkey : '=' ∉ key)
    (hhead : key.head? ≠ none ∧ key.head? ≠ some '#') (hfresh : key ∉ assignments.map Prod.fst) :
    assign assignments rawLine = (do
      let item ← valueOf key item
      pure (assignments ++ [(key, item)])) := by
  have hne : key ≠ [] := fun hnil => hhead.1 (hnil ▸ rfl)
  have hcomment : ¬ (key ++ '=' :: item = [] ∨ (key ++ '=' :: item).head? = some '#') := by
    rw [List.head?_append_of_ne_nil _ hne]
    exact fun h => h.elim (fun hnil => hne (append_eq_nil_iff.mp hnil).1) hhead.2
  simp only [assign, hstrip, if_neg hcomment, splitAssignment_append item hkey, orRefuse_some]
  simp [require, hfresh, bind, Except.bind]

theorem unquote_quoted (url : List Char) : unquote ('\'' :: url ++ ['\'']) = .ok url := by
  have hlast : ('\'' :: url ++ ['\'']).getLast? = some '\'' := getLast?_concat
  rw [unquote, if_pos (.inr hlast), hlast]
  simp [require, bind, Except.bind, pure, Except.pure]

theorem unquote_open {kept : List Char} (h : '\'' ∉ kept) :
    unquote ('\'' :: kept) = .error "Database pointer URL quoting is invalid." := by
  have hopen : ¬ (2 ≤ ('\'' :: kept).length ∧ ('\'' :: kept).head? = some '\'' ∧
      ('\'' :: kept).getLast? = some '\'') := by
    rintro ⟨hlength, -, hlast⟩
    cases kept with
    | nil => simp at hlength
    | cons =>
      exact h (mem_of_getLast? hlast)
  have hhead : ('\'' :: kept).head? = some '\'' := rfl
  rw [unquote, if_pos (.inl hhead), require, if_neg hopen]
  rfl

theorem digits_of_str? {n : Nat} {digits : List Char} (h : Python.str? n = some digits) :
    digits ≠ [] ∧ ∀ c ∈ digits, c.isDigit = true := by
  unfold Python.str? at h
  split at h
  · cases h
    exact ⟨Nat.toDigits_ne_nil, fun c hc =>
      Nat.isDigit_of_mem_toDigits (by decide) (by decide) hc⟩
  · cases h

theorem plain_digit {c : Char} (h : c.isDigit = true) :
    isLineBreak c = false ∧ Python.isSpace c = false := by
  have hrange := Python.toNat_of_isDigit h
  simp only [isLineBreak, Python.isSpace, Bool.or_eq_false_iff, Bool.and_eq_false_iff,
    decide_eq_false_iff_not]
  omega

section RoundTrip

variable {record : PointerRecord} {text : List Char}

/-- A written URL without line breaks is read back. -/
theorem parsePointerText_of_oneLine (h : pointerText record = .ok text)
    (hone : OneLine record.databaseUrl.toList) : parsePointerText text = .ok record := by
  obtain ⟨⟨hurl, hgeneration⟩, _, digits, hdigits, rfl⟩ := pointerText_ok.mp h
  obtain ⟨hne, hdigit⟩ := digits_of_str? hdigits
  have honeDigits : digits.any isLineBreak = false := by
    simpa using fun c hc => (plain_digit (hdigit c hc)).1
  have hlines : splitlines (urlKey ++ '=' :: '\'' :: record.databaseUrl.toList ++ '\'' :: '\n' ::
      (generationKey ++ '=' :: digits ++ ['\n'])) =
      [urlKey ++ '=' :: ('\'' :: record.databaseUrl.toList ++ ['\'']),
        generationKey ++ '=' :: digits] := by
    have honeFirst : OneLine (urlKey ++ '=' :: ('\'' :: record.databaseUrl.toList ++ ['\''])) := by
      have hkey : urlKey.any isLineBreak = false := by decide
      have hsigns : isLineBreak '=' = false ∧ isLineBreak '\'' = false := by decide
      simpa [OneLine, hkey, hsigns] using hone
    have honeSecond : OneLine (generationKey ++ '=' :: digits) := by
      have hkey : generationKey.any isLineBreak = false := by decide
      have hsign : isLineBreak '=' = false := by decide
      simpa [OneLine, hkey, hsign] using honeDigits
    have hfirst : splitlines (_ ++ '\n' :: (generationKey ++ '=' :: digits ++ ['\n'])) = _ :: _ :=
      splitlines_append honeFirst (by decide) (by decide)
    have hsecond : splitlines (_ ++ '\n' :: []) = _ :: _ :=
      splitlines_append honeSecond (by decide) (by decide)
    rw [hsecond] at hfirst
    simpa [splitlines] using hfirst
  have hurlLine : assign [] (urlKey ++ '=' :: ('\'' :: record.databaseUrl.toList ++ ['\''])) =
      .ok [(urlKey, record.databaseUrl.toList)] := by
    rw [assign_line _ (strip_eq_self (by simp) ?_ ?_) (by decide) (by decide) (by simp), valueOf,
      if_pos rfl, unquote_quoted]
    · rfl
    · intro c hc
      rw [List.head?_append_of_ne_nil _ (by decide)] at hc
      exact some.inj hc ▸ by decide
    · intro c hc
      rw [← cons_append, ← append_assoc, getLast?_concat] at hc
      exact some.inj hc ▸ by decide
  have hgenerationLine : assign [(urlKey, record.databaseUrl.toList)]
      (generationKey ++ '=' :: digits) =
      .ok [(urlKey, record.databaseUrl.toList), (generationKey, digits)] := by
    rw [assign_line _ (strip_eq_self (by simp) ?_ ?_) (by decide) (by decide)
      (show generationKey ∉ [urlKey] by decide), valueOf, if_neg (by decide)]
    · rfl
    · intro c hc
      rw [List.head?_append_of_ne_nil _ (by decide)] at hc
      exact some.inj hc ▸ by decide
    · intro c hc
      have hmem : c ∈ digits := by
        rw [List.getLast?_append_of_ne_nil _ (by simp), List.getLast?_cons_of_ne_nil hne] at hc
        exact mem_of_getLast? hc
      exact (plain_digit (hdigit c hmem)).2
  have hread := Python.int?_str? hdigits
  have hfilled : record.databaseUrl.toList ≠ [] := by simpa using hurl
  rw [parsePointerText, hlines, foldlM_cons, hurlLine]
  simp [hgenerationLine, hread, require, hfilled, hgeneration, bind, Except.bind, pure, Except.pure]

/-- A written URL with a line break is refused when it is read. -/
theorem parsePointerText_of_broken (h : pointerText record = .ok text)
    (hbroken : ¬ OneLine record.databaseUrl.toList) :
    parsePointerText text = .error "Database pointer URL quoting is invalid." := by
  obtain ⟨-, hsafe, digits, -, rfl⟩ := pointerText_ok.mp h
  obtain ⟨line, c, rest, hurl, hline, hc⟩ := exists_break hbroken
  rw [hurl] at hsafe ⊢
  have hreturn : c ≠ '\r' := (hsafe c (by simp)).2.1
  have hquote : '\'' ∉ line := fun hmem => (hsafe '\'' (by simp [hmem])).2.2 rfl
  have honeLine : OneLine (urlKey ++ '=' :: '\'' :: line) := by
    have hkey : urlKey.any isLineBreak = false := by decide
    have hsigns : isLineBreak '=' = false ∧ isLineBreak '\'' = false := by decide
    simpa [OneLine, hkey, hsigns] using hline
  have hlines : splitlines (_ ++ c :: (rest ++ '\'' :: '\n' ::
      (generationKey ++ '=' :: digits ++ ['\n']))) = _ :: _ :=
    splitlines_append honeLine hc hreturn
  have hstrip : strip (urlKey ++ '=' :: '\'' :: line) =
      urlKey ++ '=' :: '\'' :: (line.reverse.dropWhile Python.isSpace).reverse := by
    have h : strip ((urlKey ++ ['=', '\'']) ++ line) = _ := strip_append line (by decide)
      (fun c hc => some.inj hc ▸ by decide) (fun c hc => some.inj hc ▸ by decide)
    simpa using h
  have hkept : '\'' ∉ (line.reverse.dropWhile Python.isSpace).reverse := fun hmem =>
    hquote (mem_reverse.mp ((dropWhile_sublist _).subset (mem_reverse.mp hmem)))
  have hrefused : assign [] (urlKey ++ '=' :: '\'' :: line) =
      .error "Database pointer URL quoting is invalid." := by
    rw [assign_line _ hstrip (by decide) (by decide) (by simp), valueOf, if_pos rfl,
      unquote_open hkept]
    rfl
  rw [show urlKey ++ '=' :: '\'' :: (line ++ c :: rest) ++ '\'' :: '\n' ::
      (generationKey ++ '=' :: digits ++ ['\n']) = urlKey ++ '=' :: '\'' :: line ++ c ::
      (rest ++ '\'' :: '\n' :: (generationKey ++ '=' :: digits ++ ['\n'])) by simp]
  rw [parsePointerText, hlines, foldlM_cons, hrefused]
  rfl

theorem oneLine_of_parse (h : parsePointerText text = .ok record) :
    OneLine record.databaseUrl.toList := by
  unfold parsePointerText at h
  obtain ⟨assignments, hloop, h⟩ := bind_ok.mp h
  have hvalues : ∀ entry ∈ assignments, OneLine entry.2 := by
    refine foldlM_preserves (I := fun entries : List (List Char × List Char) =>
      ∀ entry ∈ entries, OneLine entry.2) ?_ (by simp) hloop
    intro entries rawLine entries' hmem hentries hassign
    unfold assign at hassign
    simp only at hassign
    split at hassign
    · rw [pure_ok] at hassign
      exact hassign ▸ hentries
    · simp only [bind_ok, orRefuse_ok, pure_ok] at hassign
      obtain ⟨⟨_, item⟩, hsplit, -, -, value, hvalue, rfl⟩ := hassign
      have hitem : OneLine item := (oneLine_of_mem hmem).subset
        (List.Subset.trans (splitAssignment_subset hsplit) (strip_subset rawLine))
      have hone : OneLine value := by
        unfold valueOf at hvalue
        split at hvalue
        · exact hitem.subset (unquote_subset hvalue)
        · exact pure_ok.mp hvalue ▸ hitem
      intro entry hentry
      rcases mem_append.mp hentry with hold | hnew
      · exact hentries entry hold
      · exact mem_singleton.mp hnew ▸ hone
  split at h
  · next first url second digits =>
      simp at h
      obtain ⟨-, -, -, -, -, -, -, -, rfl⟩ := h
      simpa using hvalues _ mem_cons_self
  · simp at h

theorem writePointerAtomic_ok {owned : Bool} {file : Option (List Char)}
    {expectedGeneration : Option Nat} {invalidates : Bool}
    (h : writePointerAtomic owned file record expectedGeneration invalidates = .ok text) :
    owned = true ∧ pointerText record = .ok text := by
  obtain ⟨-, -, h⟩ := bind_ok.mp h
  split at h
  · simp only [bind_ok, require_ok] at h
    obtain ⟨-, -, -, -, -, -, -, -, -, howned, htext⟩ := h
    exact ⟨howned, htext⟩
  · simp only [bind_ok, require_ok] at h
    obtain ⟨-, -, -, howned, htext⟩ := h
    exact ⟨howned, htext⟩

theorem readPointer_of_text (h : pointerText record = .ok text) :
    readPointer true text = parsePointerText text := by
  obtain ⟨-, hsafe, digits, hdigits, rfl⟩ := pointerText_ok.mp h
  have hkeys : '\r' ∉ urlKey ∧ '\r' ∉ generationKey := by decide
  have hurl : '\r' ∉ record.databaseUrl.toList := fun hmem => (hsafe _ hmem).2.1 rfl
  have hnumber : '\r' ∉ digits := fun hmem =>
    absurd ((digits_of_str? hdigits).2 _ hmem) (by decide)
  rw [readPointer, universalNewlines_eq_self (by simp [hkeys, hurl, hnumber])]
  rfl

/-- A pointer is read back exactly when its URL has no line break; one that was read is read back or
not written. -/
theorem pointer_reads_back_iff (h : pointerText record = .ok text)
    {given : List Char} {accepted : PointerRecord} (hgiven : parsePointerText given = .ok accepted) :
    ((parsePointerText text = .ok record ∧ ∀ owned file expectedGeneration invalidates,
        writePointerAtomic owned file record expectedGeneration invalidates = .ok text →
        readPointer owned text = .ok record) ↔ OneLine record.databaseUrl.toList) ∧
    ((∃ written, pointerText accepted = .ok written ∧ parsePointerText written = .ok accepted) ∨
      ∀ owned file expectedGeneration invalidates written,
        writePointerAtomic owned file accepted expectedGeneration invalidates ≠ .ok written) := by
  refine ⟨⟨fun hread => ?_, fun hone => ?_⟩, ?_⟩
  · by_contra hbroken
    rw [parsePointerText_of_broken h hbroken] at hread
    cases hread.1
  · have hread := parsePointerText_of_oneLine h hone
    refine ⟨hread, fun owned file expectedGeneration invalidates hwrite => ?_⟩
    rw [(writePointerAtomic_ok hwrite).1, readPointer_of_text h, hread]
  · cases hwritten : pointerText accepted with
    | ok written =>
      exact .inl ⟨written, rfl, parsePointerText_of_oneLine hwritten (oneLine_of_parse hgiven)⟩
    | error =>
      refine .inr fun owned file expectedGeneration invalidates written hwrite => ?_
      rw [(writePointerAtomic_ok hwrite).2] at hwritten
      cases hwritten

def localPointer : PointerRecord := ⟨"postgresql://app@db/app", 2⟩

def localText : List Char :=
  "DATABASE_URL='postgresql://app@db/app'\nSPACEWORKS_DB_POINTER_GENERATION=2\n".toList

theorem localPointer_reads_back : readPointer true localText = .ok localPointer :=
  ((@pointer_reads_back_iff localPointer localText (by rfl) localText localPointer
    (by rfl)).1.mpr (by decide)).2 true none none false (by rfl)

theorem separated_pointer_is_lost :
    ∃ text, pointerText ⟨"postgresql://app:a\u2028b@db/app", 1⟩ = .ok text ∧
      writePointerAtomic true none ⟨"postgresql://app:a\u2028b@db/app", 1⟩ none false = .ok text ∧
      readPointer true text = .error "Database pointer URL quoting is invalid." :=
  ⟨_, by rfl, by rfl, by rfl⟩

end RoundTrip

end PointerFiles
end SpaceWorks

import Mathlib.Data.List.Basic

/-!
# Compact JSON text

JSON values without fractions, and their compact text, which determines them.
-/

namespace JsonText

open List Option

inductive Json
  | null
  | bool (value : Bool)
  | int (value : Int)
  | str (value : String)
  | list (items : List Json)
  | dict (entries : List (String × Json))
  deriving Inhabited

def escape (c : Char) : List Char :=
  if c = '"' then ['\\', '"']
  else if c = '\\' then ['\\', '\\']
  else if c = '\n' then ['\\', 'n']
  else if c = '\r' then ['\\', 'r']
  else if c = '\t' then ['\\', 't']
  else if c.toNat = 12 then ['\\', 'f']
  else if c.toNat = 8 then ['\\', 'b']
  else if c.toNat < 32 then
    ['\\', 'u', '0', '0', (c.toNat / 16).digitChar, (c.toNat % 16).digitChar]
  else [c]

def quoteTail (text : List Char) : List Char :=
  text.flatMap escape ++ ['"']

def quote (text : String) : List Char :=
  '"' :: quoteTail text.toList

def renderInt (n : Int) : List Char :=
  if n < 0 then '-' :: Nat.toDigits 10 n.natAbs else Nat.toDigits 10 n.natAbs

mutual

def render : Json → List Char
  | .null => ['n', 'u', 'l', 'l']
  | .bool true => ['t', 'r', 'u', 'e']
  | .bool false => ['f', 'a', 'l', 's', 'e']
  | .int n => renderInt n
  | .str text => quote text
  | .list [] => ['[', ']']
  | .list (item :: items) => '[' :: (render item ++ renderItems items)
  | .dict [] => ['\x7b', '\x7d']
  | .dict ((name, value) :: entries) =>
    '\x7b' :: (quote name ++ ':' :: (render value ++ renderEntries entries))

def renderItems : List Json → List Char
  | [] => [']']
  | item :: items => ',' :: (render item ++ renderItems items)

def renderEntries : List (String × Json) → List Char
  | [] => ['\x7d']
  | (name, value) :: entries =>
    ',' :: (quote name ++ ':' :: (render value ++ renderEntries entries))

end

def escaped : List Char :=
  '"' :: '\\' :: (List.range 32).map Char.ofNat

theorem escape_cases (c : Char) : c ∈ escaped ∨ (escape c = [c] ∧ c ≠ '"' ∧ c ≠ '\\') := by
  by_cases hquote : c = '"'
  · exact .inl (by simp [hquote, escaped])
  by_cases hslash : c = '\\'
  · exact .inl (by simp [hslash, escaped])
  by_cases hcontrol : c.toNat < 32
  · refine .inl (mem_cons_of_mem _ (mem_cons_of_mem _ (mem_map.mpr
      ⟨c.toNat, by simpa using hcontrol, Char.ofNat_toNat c⟩)))
  · refine .inr ⟨?_, hquote, hslash⟩
    have hnewline : c ≠ '\n' := by rintro rfl; exact hcontrol (by decide)
    have hreturn : c ≠ '\r' := by rintro rfl; exact hcontrol (by decide)
    have htab : c ≠ '\t' := by rintro rfl; exact hcontrol (by decide)
    simp [escape, hquote, hslash, hnewline, hreturn, htab, hcontrol, show c.toNat ≠ 12 by omega,
      show c.toNat ≠ 8 by omega]

theorem escape_of_mem {c : Char} (h : c ∈ escaped) : (escape c).head? = some '\\' := by
  have hall : escaped.all fun c => (escape c).head? = some '\\' := by decide +kernel
  exact of_decide_eq_true (all_eq_true.mp hall c h)

theorem eq_of_prefixed_escape {c d : Char} (hc : c ∈ escaped) (hd : d ∈ escaped)
    (h : escape c <+: escape d) : c = d := by
  have hall : escaped.all fun c => escaped.all fun d => escape c <+: escape d → c = d := by
    decide +kernel
  exact of_decide_eq_true (all_eq_true.mp (all_eq_true.mp hall c hc) d hd) h

theorem head_escape_append (c : Char) (rest : List Char) :
    (escape c ++ rest).head? = (escape c).head? := by
  rcases escape_cases c with hc | ⟨hc, -⟩
  · have hhead := escape_of_mem hc
    cases hescape : escape c with
    | nil => simp [hescape] at hhead
    | cons => rfl
  · rw [hc]
    rfl

theorem escape_append_inj {c d : Char} {s t : List Char} (h : escape c ++ s = escape d ++ t) :
    c = d ∧ s = t := by
  have hhead : (escape c).head? = (escape d).head? := by
    rw [← head_escape_append c s, h, head_escape_append]
  have hsame : c = d := by
    rcases escape_cases c with hc | ⟨hc, -, hslash⟩ <;>
      rcases escape_cases d with hd | ⟨hd, -, hslash'⟩
    · rcases prefix_or_prefix_of_prefix ⟨s, rfl⟩ ⟨t, h.symm⟩ with hprefix | hprefix
      · exact eq_of_prefixed_escape hc hd hprefix
      · exact (eq_of_prefixed_escape hd hc hprefix).symm
    · rw [escape_of_mem hc, hd] at hhead
      exact absurd (some.inj hhead).symm hslash'
    · rw [escape_of_mem hd, hc] at hhead
      exact absurd (some.inj hhead) hslash
    · rw [hc, hd] at hhead
      exact some.inj hhead
  subst hsame
  exact ⟨rfl, append_cancel_left h⟩

theorem head_escape_ne_quote (c : Char) : (escape c).head? ≠ some '"' := by
  rcases escape_cases c with hc | ⟨hc, hquote, -⟩
  · rw [escape_of_mem hc]
    decide
  · rw [hc]
    intro h
    exact hquote (some.inj h)

theorem quoteTail_cons (c : Char) (text : List Char) :
    quoteTail (c :: text) = escape c ++ quoteTail text := by
  simp [quoteTail]

theorem quoteTail_append_inj {text text' s t : List Char}
    (h : quoteTail text ++ s = quoteTail text' ++ t) : text = text' ∧ s = t := by
  induction text generalizing text' with
  | nil =>
    cases text' with
    | nil => simpa [quoteTail] using h
    | cons c =>
      rw [quoteTail_cons, append_assoc] at h
      have hhead := congrArg List.head? h
      rw [head_escape_append] at hhead
      exact absurd hhead.symm (head_escape_ne_quote c)
  | cons c _ ih =>
    cases text' with
    | nil =>
      rw [quoteTail_cons, append_assoc] at h
      have hhead := congrArg List.head? h
      rw [head_escape_append] at hhead
      exact absurd hhead (head_escape_ne_quote c)
    | cons =>
      rw [quoteTail_cons, quoteTail_cons, append_assoc, append_assoc] at h
      obtain ⟨rfl, hrest⟩ := escape_append_inj h
      obtain ⟨rfl, hst⟩ := ih hrest
      exact ⟨rfl, hst⟩

theorem quote_append_inj {text text' : String} {s t : List Char}
    (h : quote text ++ s = quote text' ++ t) : text = text' ∧ s = t := by
  obtain ⟨htext, hst⟩ := quoteTail_append_inj (cons.inj h).2
  exact ⟨String.toList_inj.mp htext, hst⟩

/-- The text does not start with a digit. -/
def Ends (text : List Char) : Prop :=
  ∀ c, text.head? = some c → c.isDigit = false

theorem digits_append_inj {digits digits' s t : List Char}
    (hdigits : ∀ c ∈ digits, c.isDigit = true) (hdigits' : ∀ c ∈ digits', c.isDigit = true)
    (hs : Ends s) (ht : Ends t) (h : digits ++ s = digits' ++ t) : digits = digits' ∧ s = t := by
  induction digits generalizing digits' with
  | nil =>
    cases digits' with
    | nil => exact ⟨rfl, h⟩
    | cons d digits' =>
      have hd := hs d (by rw [show s = d :: digits' ++ t from h]; rfl)
      rw [hdigits' d (by simp)] at hd
      cases hd
  | cons c digits ih =>
    cases digits' with
    | nil =>
      have hc := ht c (by rw [← show c :: digits ++ s = t from h]; rfl)
      rw [hdigits c (by simp)] at hc
      cases hc
    | cons =>
      obtain ⟨rfl, hrest⟩ := cons.inj h
      obtain ⟨rfl, hst⟩ := ih (fun c hc => hdigits c (by simp [hc]))
        (fun c hc => hdigits' c (by simp [hc])) hrest
      exact ⟨rfl, hst⟩

theorem isDigit_toDigits (n : Nat) : ∀ c ∈ Nat.toDigits 10 n, c.isDigit = true :=
  fun _ hc => Nat.isDigit_of_mem_toDigits (by omega) (by omega) hc

theorem toDigits_inj {n m : Nat} (h : Nat.toDigits 10 n = Nat.toDigits 10 m) : n = m := by
  rw [← Nat.ofDigitChars_ten_toDigits (n := n), h, Nat.ofDigitChars_ten_toDigits]

theorem head_toDigits (n : Nat) (rest : List Char) :
    ∃ c, (Nat.toDigits 10 n ++ rest).head? = some c ∧ c.isDigit = true := by
  cases hdigits : Nat.toDigits 10 n with
  | nil => exact absurd hdigits Nat.toDigits_ne_nil
  | cons c => exact ⟨c, rfl, isDigit_toDigits n c (by simp [hdigits])⟩

theorem renderInt_append_inj {n m : Int} {s t : List Char} (hs : Ends s) (ht : Ends t)
    (h : renderInt n ++ s = renderInt m ++ t) : n = m ∧ s = t := by
  have hminus : ∀ k : Nat, ∀ rest rest' : List Char, '-' :: rest ≠ Nat.toDigits 10 k ++ rest' := by
    intro k rest rest' heq
    obtain ⟨_, hhead, hdigit⟩ := head_toDigits k rest'
    rw [← heq] at hhead
    rw [← some.inj hhead] at hdigit
    exact absurd hdigit (by decide)
  unfold renderInt at h
  split at h <;> split at h
  · obtain ⟨hdigits, hst⟩ := digits_append_inj (isDigit_toDigits _) (isDigit_toDigits _) hs ht
      (cons.inj h).2
    have hsame := toDigits_inj hdigits
    exact ⟨by omega, hst⟩
  · exact absurd h (hminus _ _ _)
  · exact absurd h.symm (hminus _ _ _)
  · obtain ⟨hdigits, hst⟩ := digits_append_inj (isDigit_toDigits _) (isDigit_toDigits _) hs ht h
    have hsame := toDigits_inj hdigits
    exact ⟨by omega, hst⟩

/-- The kind of a value by the first character of its text. -/
def kindOf (c : Char) : Nat :=
  if c = 'n' then 0
  else if c = 't' then 1
  else if c = 'f' then 2
  else if c = '"' then 3
  else if c = '[' then 4
  else if c = '\x7b' then 5
  else if c.isDigit || c = '-' then 6
  else 7

def Json.kind : Json → Nat
  | .null => 0
  | .bool true => 1
  | .bool false => 2
  | .str _ => 3
  | .list _ => 4
  | .dict _ => 5
  | .int _ => 6

theorem kindOf_digit {c : Char} (h : c.isDigit = true) : kindOf c = 6 := by
  have hne : ∀ d : Char, d.isDigit = false → c ≠ d := by
    rintro _ hd rfl
    rw [h] at hd
    cases hd
  simp only [kindOf, hne 'n' rfl, hne 't' rfl, hne 'f' rfl, hne '"' rfl, hne '[' rfl,
    hne '\x7b' rfl, h, Bool.true_or, if_true, if_false]

theorem head_render (value : Json) (rest : List Char) :
    (render value ++ rest).head?.map kindOf = some value.kind := by
  match value with
  | .null => rw [render]; rfl
  | .bool true => rw [render]; rfl
  | .bool false => rw [render]; rfl
  | .str _ => rw [render]; rfl
  | .list [] => rw [render]; rfl
  | .list (_ :: _) => rw [render]; rfl
  | .dict [] => rw [render]; rfl
  | .dict ((_, _) :: _) => rw [render]; rfl
  | .int n =>
    rw [render, renderInt]
    split
    · rfl
    · obtain ⟨_, hhead, hdigit⟩ := head_toDigits n.natAbs rest
      rw [hhead, map_some, kindOf_digit hdigit]
      rfl

theorem kind_eq {v w : Json} {s t : List Char} (h : render v ++ s = render w ++ t) :
    v.kind = w.kind := by
  have hhead := head_render v s
  rw [h, head_render w t] at hhead
  exact (some.inj hhead).symm

theorem ends_renderItems (items : List Json) (s : List Char) : Ends (renderItems items ++ s) := by
  intro c hc
  cases items <;> rw [renderItems] at hc <;> rw [← some.inj hc] <;> decide

theorem ends_renderEntries (entries : List (String × Json)) (s : List Char) :
    Ends (renderEntries entries ++ s) := by
  intro c hc
  cases entries <;> rw [renderEntries] at hc <;> rw [← some.inj hc] <;> decide

theorem render_ne_close (value : Json) (rest rest' : List Char) :
    ']' :: rest ≠ render value ++ rest' := by
  intro h
  have hhead := head_render value rest'
  rw [← h] at hhead
  have hkind : value.kind = 7 := (some.inj hhead).symm
  match value with
  | .null | .bool true | .bool false | .str _ | .list _ | .dict _ | .int _ => cases hkind

theorem kind_cases (w : Json) :
    (w.kind = 0 → w = .null) ∧ (w.kind = 1 → w = .bool true) ∧ (w.kind = 2 → w = .bool false) ∧
      (w.kind = 3 → ∃ text, w = .str text) ∧ (w.kind = 4 → ∃ items, w = .list items) ∧
      (w.kind = 5 → ∃ entries, w = .dict entries) ∧ (w.kind = 6 → ∃ n, w = .int n) := by
  match w with
  | .null | .bool true | .bool false | .str _ | .list _ | .dict _ | .int _ => simp [Json.kind]

mutual

theorem render_append_inj :
    ∀ (v w : Json) (s t : List Char), Ends s → Ends t → render v ++ s = render w ++ t →
      v = w ∧ s = t
  | .null, w, s, t, _, _, h => by
    obtain rfl := (kind_cases w).1 (kind_eq h).symm
    exact ⟨rfl, append_cancel_left h⟩
  | .bool true, w, s, t, _, _, h => by
    obtain rfl := (kind_cases w).2.1 (kind_eq h).symm
    exact ⟨rfl, append_cancel_left h⟩
  | .bool false, w, s, t, _, _, h => by
    obtain rfl := (kind_cases w).2.2.1 (kind_eq h).symm
    exact ⟨rfl, append_cancel_left h⟩
  | .str text, w, s, t, _, _, h => by
    obtain ⟨_, rfl⟩ := (kind_cases w).2.2.2.1 (kind_eq h).symm
    rw [render, render] at h
    obtain ⟨rfl, hst⟩ := quote_append_inj h
    exact ⟨rfl, hst⟩
  | .int n, w, s, t, hs, ht, h => by
    obtain ⟨_, rfl⟩ := (kind_cases w).2.2.2.2.2.2 (kind_eq h).symm
    rw [render, render] at h
    obtain ⟨rfl, hst⟩ := renderInt_append_inj hs ht h
    exact ⟨rfl, hst⟩
  | .list [], w, s, t, _, _, h => by
    obtain ⟨items, rfl⟩ := (kind_cases w).2.2.2.2.1 (kind_eq h).symm
    cases items with
    | nil => exact ⟨rfl, append_cancel_left h⟩
    | cons item items =>
      rw [render, render] at h
      have hclose : ']' :: s = render item ++ renderItems items ++ t := (cons.inj h).2
      rw [append_assoc] at hclose
      exact absurd hclose (render_ne_close item _ _)
  | .list (item :: items), w, s, t, _, _, h => by
    obtain ⟨items', rfl⟩ := (kind_cases w).2.2.2.2.1 (kind_eq h).symm
    cases items' with
    | nil =>
      rw [render, render] at h
      have hclose : render item ++ renderItems items ++ s = ']' :: t := (cons.inj h).2
      rw [append_assoc] at hclose
      exact absurd hclose.symm (render_ne_close item _ _)
    | cons item' items' =>
      rw [render, render, cons_append, cons_append, append_assoc, append_assoc] at h
      obtain ⟨rfl, hrest⟩ := render_append_inj item item' _ _ (ends_renderItems items s)
        (ends_renderItems items' t) (cons.inj h).2
      obtain ⟨rfl, hst⟩ := renderItems_append_inj items items' s t hrest
      exact ⟨rfl, hst⟩
  | .dict [], w, s, t, _, _, h => by
    obtain ⟨entries, rfl⟩ := (kind_cases w).2.2.2.2.2.1 (kind_eq h).symm
    cases entries with
    | nil => exact ⟨rfl, append_cancel_left h⟩
    | cons =>
      rw [render, render] at h
      have hhead : '\x7d' = '"' := (cons.inj (cons.inj h).2).1
      exact absurd hhead (by decide)
  | .dict ((name, value) :: entries), w, s, t, _, _, h => by
    obtain ⟨entries', rfl⟩ := (kind_cases w).2.2.2.2.2.1 (kind_eq h).symm
    match entries' with
    | [] =>
      rw [render, render] at h
      have hhead : '"' = '\x7d' := (cons.inj (cons.inj h).2).1
      exact absurd hhead (by decide)
    | (name', value') :: entries' =>
      rw [render, render, cons_append, cons_append, append_assoc, append_assoc] at h
      obtain ⟨rfl, hcolon⟩ := quote_append_inj (cons.inj h).2
      have hvalue : render value ++ renderEntries entries ++ s =
          render value' ++ renderEntries entries' ++ t := (cons.inj hcolon).2
      rw [append_assoc, append_assoc] at hvalue
      obtain ⟨rfl, hrest⟩ := render_append_inj value value' _ _
        (ends_renderEntries entries s) (ends_renderEntries entries' t) hvalue
      obtain ⟨rfl, hst⟩ := renderEntries_append_inj entries entries' s t hrest
      exact ⟨rfl, hst⟩

theorem renderItems_append_inj :
    ∀ (items items' : List Json) (s t : List Char),
      renderItems items ++ s = renderItems items' ++ t → items = items' ∧ s = t
  | [], [], s, t, h => ⟨rfl, append_cancel_left h⟩
  | [], _ :: _, s, t, h => by
    rw [renderItems, renderItems] at h
    have hhead : ']' = ',' := (cons.inj h).1
    exact absurd hhead (by decide)
  | _ :: _, [], s, t, h => by
    rw [renderItems, renderItems] at h
    have hhead : ',' = ']' := (cons.inj h).1
    exact absurd hhead (by decide)
  | item :: items, item' :: items', s, t, h => by
    rw [renderItems, renderItems, cons_append, cons_append, append_assoc, append_assoc] at h
    obtain ⟨rfl, hrest⟩ := render_append_inj item item' _ _ (ends_renderItems items s)
      (ends_renderItems items' t) (cons.inj h).2
    obtain ⟨rfl, hst⟩ := renderItems_append_inj items items' s t hrest
    exact ⟨rfl, hst⟩

theorem renderEntries_append_inj :
    ∀ (entries entries' : List (String × Json)) (s t : List Char),
      renderEntries entries ++ s = renderEntries entries' ++ t → entries = entries' ∧ s = t
  | [], [], s, t, h => ⟨rfl, append_cancel_left h⟩
  | [], (_, _) :: _, s, t, h => by
    rw [renderEntries, renderEntries] at h
    have hhead : '\x7d' = ',' := (cons.inj h).1
    exact absurd hhead (by decide)
  | (_, _) :: _, [], s, t, h => by
    rw [renderEntries, renderEntries] at h
    have hhead : ',' = '\x7d' := (cons.inj h).1
    exact absurd hhead (by decide)
  | (name, value) :: entries, (name', value') :: entries', s, t, h => by
    rw [renderEntries, renderEntries, cons_append, cons_append, append_assoc, append_assoc] at h
    obtain ⟨rfl, hcolon⟩ := quote_append_inj (cons.inj h).2
    have hvalue : render value ++ renderEntries entries ++ s =
        render value' ++ renderEntries entries' ++ t := (cons.inj hcolon).2
    rw [append_assoc, append_assoc] at hvalue
    obtain ⟨rfl, hrest⟩ := render_append_inj value value' _ _
      (ends_renderEntries entries s) (ends_renderEntries entries' t) hvalue
    obtain ⟨rfl, hst⟩ := renderEntries_append_inj entries entries' s t hrest
    exact ⟨rfl, hst⟩

end

theorem render_injective : Function.Injective render := by
  intro v w h
  have hends : Ends [] := by
    intro c hc
    cases hc
  exact (render_append_inj v w [] [] hends hends (by rw [h])).1

end JsonText

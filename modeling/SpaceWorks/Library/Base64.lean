import Mathlib.Data.List.Basic

/-!
# Base64

The URL-safe alphabet, with padding, and its round trip.
-/

namespace Base64

open List Option

def alphabet : List Char :=
  "ABCDEFGHIJKLMNOPQRSTUVWXYZabcdefghijklmnopqrstuvwxyz0123456789-_".toList

def char (sextet : Nat) : Char :=
  alphabet.getD sextet '='

def sextet? (c : Char) : Option Nat :=
  if c ∈ alphabet then some (alphabet.idxOf c) else none

theorem sextet?_char {sextet : Nat} (h : sextet < 64) : sextet? (char sextet) = some sextet := by
  have hall : ∀ n : Fin 64, sextet? (char n) = some n.val := by decide +kernel
  exact hall ⟨sextet, h⟩

theorem char_mem {sextet : Nat} (h : sextet < 64) : char sextet ∈ alphabet := by
  have hall : ∀ n : Fin 64, char n ∈ alphabet := by decide +kernel
  exact hall ⟨sextet, h⟩

theorem pad_notMem : '=' ∉ alphabet := by
  decide +kernel

def encodeUnpadded : List UInt8 → List Char
  | a :: b :: c :: bytes =>
    let n := a.toNat * 65536 + b.toNat * 256 + c.toNat
    char (n / 262144) :: char (n / 4096 % 64) :: char (n / 64 % 64) :: char (n % 64) ::
      encodeUnpadded bytes
  | [a, b] =>
    let n := a.toNat * 1024 + b.toNat * 4
    [char (n / 4096), char (n / 64 % 64), char (n % 64)]
  | [a] => [char (a.toNat * 16 / 64), char (a.toNat * 16 % 64)]
  | [] => []

def padding (text : List Char) : List Char :=
  List.replicate ((4 - text.length % 4) % 4) '='

def encode (bytes : List UInt8) : List Char :=
  encodeUnpadded bytes ++ padding (encodeUnpadded bytes)

/-- The bytes of a text; the bits before the padding are dropped. -/
def decode : List Char → Option (List UInt8)
  | [] => some []
  | [a, b, '=', '='] => do
    let n := (← sextet? a) * 64 + (← sextet? b)
    some [UInt8.ofNat (n / 16)]
  | [a, b, c, '='] => do
    let n := (← sextet? a) * 4096 + (← sextet? b) * 64 + (← sextet? c)
    some [UInt8.ofNat (n / 1024), UInt8.ofNat (n / 4 % 256)]
  | a :: b :: c :: d :: text => do
    let n := (← sextet? a) * 262144 + (← sextet? b) * 4096 + (← sextet? c) * 64 + (← sextet? d)
    let bytes ← decode text
    some (UInt8.ofNat (n / 65536) :: UInt8.ofNat (n / 256 % 256) :: UInt8.ofNat (n % 256) :: bytes)
  | _ => none

theorem encodeUnpadded_alphabet (bytes : List UInt8) :
    ∀ c ∈ encodeUnpadded bytes, c ∈ alphabet := by
  induction bytes using encodeUnpadded.induct with
  | case1 a b c _ ih =>
    have ha := a.toNat_lt
    have hb := b.toNat_lt
    have hc := c.toNat_lt
    simp only [encodeUnpadded, forall_mem_cons]
    exact ⟨char_mem (by omega), char_mem (by omega), char_mem (by omega), char_mem (by omega), ih⟩
  | case2 a b =>
    have ha := a.toNat_lt
    have hb := b.toNat_lt
    simp only [encodeUnpadded, forall_mem_cons]
    exact ⟨char_mem (by omega), char_mem (by omega), char_mem (by omega), by simp⟩
  | case3 a =>
    have ha := a.toNat_lt
    simp only [encodeUnpadded, forall_mem_cons]
    exact ⟨char_mem (by omega), char_mem (by omega), by simp⟩
  | case4 => simp [encodeUnpadded]

theorem padding_quantum (a b c d : Char) (text : List Char) :
    padding (a :: b :: c :: d :: text) = padding text := by
  simp only [padding, length_cons]
  congr 1
  omega

theorem decode_quantum {a b c d : Char} {text : List Char} (hd : d ≠ '=') :
    decode (a :: b :: c :: d :: text) = (do
      let n := (← sextet? a) * 262144 + (← sextet? b) * 4096 + (← sextet? c) * 64 + (← sextet? d)
      let bytes ← decode text
      some (UInt8.ofNat (n / 65536) :: UInt8.ofNat (n / 256 % 256) :: UInt8.ofNat (n % 256) ::
        bytes)) := by
  rw [decode]
  · rintro - heq -
    exact hd heq
  · rintro heq -
    exact hd heq

theorem decode_three {a b c : Char} (hc : c ≠ '=') :
    decode [a, b, c, '='] = (do
      let n := (← sextet? a) * 4096 + (← sextet? b) * 64 + (← sextet? c)
      some [UInt8.ofNat (n / 1024), UInt8.ofNat (n / 4 % 256)]) := by
  rw [decode]
  rintro heq
  exact hc heq

theorem char_ne_pad {sextet : Nat} (h : sextet < 64) : char sextet ≠ '=' := by
  intro heq
  exact pad_notMem (heq ▸ char_mem h)

theorem ofNat_eq {n : Nat} {byte : UInt8} (h : n = byte.toNat) : UInt8.ofNat n = byte := by
  rw [h, UInt8.ofNat_toNat]

theorem decode_encode (bytes : List UInt8) : decode (encode bytes) = some bytes := by
  induction bytes using encodeUnpadded.induct with
  | case1 a b c _ ih =>
    have ha := a.toNat_lt
    have hb := b.toNat_lt
    have hc := c.toNat_lt
    simp only [encode] at ih
    simp only [encode, encodeUnpadded, padding_quantum, cons_append]
    rw [decode_quantum (char_ne_pad (by omega)), sextet?_char (by omega),
      sextet?_char (by omega), sextet?_char (by omega), sextet?_char (by omega), ih]
    simp only [bind_eq_bind, bind_some, some.injEq, List.cons.injEq, and_true]
    exact ⟨ofNat_eq (by omega), ofNat_eq (by omega), ofNat_eq (by omega)⟩
  | case2 a b =>
    have ha := a.toNat_lt
    have hb := b.toNat_lt
    have hpadding : ∀ x y z : Char, [x, y, z] ++ padding [x, y, z] = [x, y, z, '='] :=
      fun _ _ _ => rfl
    simp only [encode, encodeUnpadded, hpadding]
    rw [decode_three (char_ne_pad (by omega)), sextet?_char (by omega),
      sextet?_char (by omega), sextet?_char (by omega)]
    simp only [bind_eq_bind, bind_some, some.injEq, List.cons.injEq, and_true]
    exact ⟨ofNat_eq (by omega), ofNat_eq (by omega)⟩
  | case3 a =>
    have ha := a.toNat_lt
    have hpadding : ∀ x y : Char, [x, y] ++ padding [x, y] = [x, y, '=', '='] :=
      fun _ _ => rfl
    simp only [encode, encodeUnpadded, hpadding, decode]
    rw [sextet?_char (by omega), sextet?_char (by omega)]
    simp only [bind_eq_bind, bind_some, some.injEq, List.cons.injEq, and_true]
    exact ofNat_eq (by omega)
  | case4 => simp [encode, encodeUnpadded, padding, decode]

end Base64

import Untrack.Text.Percent

namespace Untrack.Host.Ipv4

/-!
# Addresses of four octets

A host whose last part is a number is an address, and then it has to be a good
one: one to four numbers between dots, decimal, octal after a nought, or
hexadecimal after `0x`. All but the last are octets, and the last one fills the
octets that are left.
-/

/-- The value of a digit in some base up to sixteen. -/
def digitValue? (base : Nat) (character : Char) : Option Nat :=
  (Text.Percent.hexValue? character).filter (· < base)

/-- The number that digits write in some base; none of them write nought. -/
def digitsValue? (base : Nat) (digits : List Char) : Option Nat :=
  digits.foldlM
    (fun number character =>
      (digitValue? base character).map (number * base + ·))
    0

/-- The number that one part writes. -/
def number? : List Char → Option Nat
  | [] => none
  | ['0'] => some 0
  | '0' :: 'x' :: digits => digitsValue? 16 digits
  | '0' :: 'X' :: digits => digitsValue? 16 digits
  | '0' :: digits => digitsValue? 8 digits
  | digits => digitsValue? 10 digits

/-- The parts between dots, without an empty one at the end. -/
def parts (host : List Char) : List (List Char) :=
  let all := host.splitOn '.'
  if all.getLast? = some [] then all.dropLast else all

/-- The last part is a number, or is made of digits. -/
def endsInNumber (host : List Char) : Bool :=
  match (parts host).getLast? with
  | none => false
  | some last =>
      (!last.isEmpty && last.all Char.isDigit) || (number? last).isSome

/-- The address that some octets and the number after them make. -/
def address? (octets : List Nat) (last : Nat) : Option Nat :=
  if octets.length ≤ 3 ∧ octets.all (· < 256) ∧
      last < Nat.pow 256 (4 - octets.length) then
    some
      (octets.foldl (fun address octet => address * 256 + octet) 0 *
        Nat.pow 256 (4 - octets.length) + last)
  else
    none

/-- The address that a host writes. -/
def parse? (host : List Char) : Option Nat :=
  ((parts host).mapM number?).bind fun numbers =>
    numbers.getLast?.bind (address? numbers.dropLast)

/-- The decimal digits of a number. -/
def decimal (number : Nat) : List Char :=
  Nat.toDigits 10 number

/-- The text of an address, four decimal octets. -/
def text (address : Nat) : List Char :=
  ['.'].intercalate
    [decimal (address / 0x1000000 % 256), decimal (address / 0x10000 % 256),
      decimal (address / 256 % 256), decimal (address % 256)]

end Untrack.Host.Ipv4

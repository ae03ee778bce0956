import SpendPolicy.Text.Basic
import SpendPolicy.Text.Unprintable

set_option autoImplicit false

namespace SpendPolicy.Quoted

def hexDigits : List Char :=
  "0123456789abcdef".toList

def hexText : Nat → Nat → Text
  | 0, _ => []
  | width + 1, n => hexText width (n / 16) ++ [hexDigits.getD (n % 16) '0']

def escapeCode (c : Char) : Text :=
  let n := c.toNat
  if n < 0x100 then '\\' :: 'x' :: hexText 2 n
  else if n < 0x10000 then '\\' :: 'u' :: hexText 4 n
  else '\\' :: 'U' :: hexText 8 n

def escapeChar (quote c : Char) : Text :=
  if c = quote || c = '\\' then ['\\', c]
  else if c = '\t' then ['\\', 't']
  else if c = '\n' then ['\\', 'n']
  else if c = '\r' then ['\\', 'r']
  else if isUnprintable c then escapeCode c
  else [c]

def quoteFor (s : Text) : Char :=
  if s.contains '\'' && !s.contains '"' then '"' else '\''

def encode (s : Text) : Text :=
  let quote := quoteFor s
  quote :: s.flatMap (escapeChar quote) ++ [quote]

end SpendPolicy.Quoted

import GpuFractioning.Lib.GoString
import GpuFractioning.Lib.GoStrconv

/-!
# Textual formats of the Go standard library

`time.Duration.String`, `net.SplitHostPort`, and quoting by the verb `%q`.
-/

namespace GoText

section Durations

def nanosecondsPerSecond : ℕ := 10 ^ 9

/-- The fraction `v / 10 ^ precision` below one, without trailing zeros. -/
def fraction (v precision : ℕ) : String :=
  let digits := Nat.toDigits 10 (v % 10 ^ precision)
  let padded := List.replicate (precision - digits.length) '0' ++ digits
  match padded.rdropWhile (· = '0') with
  | [] => ""
  | kept => "." ++ String.ofList kept

/-- A number of nanoseconds, in the largest units that fit. -/
def magnitudeString (u : ℕ) : String :=
  let unit (precision : ℕ) (name : String) : String :=
    toString (u / 10 ^ precision) ++ fraction u precision ++ name
  if u = 0 then "0s"
  else if u < 10 ^ 3 then unit 0 "ns"
  else if u < 10 ^ 6 then unit 3 "µs"
  else if u < nanosecondsPerSecond then unit 6 "ms"
  else
    let seconds := u / nanosecondsPerSecond
    let minutes := seconds / 60
    let hours := minutes / 60
    (if hours > 0 then toString hours ++ "h" else "") ++
      (if minutes > 0 then toString (minutes % 60) ++ "m" else "") ++
      toString (seconds % 60) ++ fraction u 9 ++ "s"

/-- `time.Duration.String`. -/
def durationString (nanoseconds : ℤ) : String :=
  (if nanoseconds < 0 then "-" else "") ++ magnitudeString nanoseconds.natAbs

example : durationString 5430500000000 = "1h30m30.5s" := by decide

end Durations

/-- `net.SplitHostPort`, or `none` where it returns an error. -/
def splitHostPort (hostport : String) : Option (String × String) :=
  let l := hostport.toList
  let port := (l.reverse.takeWhile (· ≠ ':')).reverse
  let host := l.take (l.length - port.length - 1)
  if ':' ∉ l then none
  else if l.head? = some '[' then
    -- the host is bracketed, and the port follows the bracket directly
    if host.getLast? = some ']' ∧ ']' ∉ host.dropLast ∧ '[' ∉ l.drop 1 ∧ ']' ∉ port then
      some (String.ofList (host.drop 1).dropLast, String.ofList port)
    else none
  else if ':' ∈ host ∨ '[' ∈ l ∨ ']' ∈ l then none
  else some (String.ofList host, String.ofList port)

def splitPort (hostport : String) : Option String := (splitHostPort hostport).map Prod.snd

example : splitHostPort "[::1]:9400" = some ("::1", "9400") := by decide

/-- How `%q` writes one character; characters beyond `U+00FF` are taken as printable. -/
def quoteChar (c : Char) : List Char :=
  if c = '"' ∨ c = '\\' then ['\\', c]
  else if c.toNat = 0x07 then ['\\', 'a']
  else if c.toNat = 0x08 then ['\\', 'b']
  else if c.toNat = 0x0C then ['\\', 'f']
  else if c = '\n' then ['\\', 'n']
  else if c = '\r' then ['\\', 'r']
  else if c = '\t' then ['\\', 't']
  else if c.toNat = 0x0B then ['\\', 'v']
  else if c.toNat < 0x20 ∨ c.toNat = 0x7F then
    ['\\', 'x', Nat.digitChar (c.toNat / 16), Nat.digitChar (c.toNat % 16)]
  else if (0x80 ≤ c.toNat ∧ c.toNat ≤ 0xA0) ∨ c.toNat = 0xAD then
    ['\\', 'u', '0', '0', Nat.digitChar (c.toNat / 16), Nat.digitChar (c.toNat % 16)]
  else [c]

/-- `fmt.Sprintf("%q", s)`. -/
def quote (s : String) : String :=
  String.ofList ('"' :: s.toList.flatMap quoteChar ++ ['"'])

end GoText

import TabletopDice.CommandLine

/-! # The program

Reads the arguments or a line of input, draws random words, and leaves the rest
to `CommandLine`.
-/
namespace TabletopDice

/-- The 64-bit words that bytes spell, eight bytes to a word. -/
def wordsOfBytes : List UInt8 → List UInt64
  | a :: b :: c :: d :: e :: f :: g :: h :: rest =>
    [a, b, c, d, e, f, g, h].foldl (fun word byte => word * 256 + byte.toUInt64) 0
      :: wordsOfBytes rest
  | _ => []

/-- Random words from the system. -/
def drawWords (n : Nat) : IO (List UInt64) := do
  let bytes ← IO.getRandomBytes (USize.ofNat (8 * n))
  return wordsOfBytes bytes.toList

/-- The bytes of the standard input up to its first newline, which is the last of them. -/
partial def readFirstLine (input : IO.FS.Stream) (line : Array UInt8) : IO (List UInt8) := do
  let bytes ← input.read 1
  if bytes.isEmpty then return line.toList
  else
    let line := line ++ bytes.data
    if bytes.toList.contains 10 then return line.toList else readFirstLine input line

/-- Tries again with more random words behind those already drawn, until they suffice. -/
partial def untilSettled {α : Type} (attempt : List UInt64 → Option α) (words : List UInt64) :
    IO α := do
  match attempt words with
  | some a => return a
  | none => untilSettled attempt (words ++ (← drawWords 128))

end TabletopDice

open TabletopDice in
/-- Rolls the dice that the arguments, or else a line of input, ask for. -/
def main (arguments : List String) : IO UInt32 := do
  let out ← IO.getStdout
  let attempt ←
    if arguments.isEmpty then
      out.putStr CommandLine.prompt
      out.flush
      let line ← readFirstLine (← IO.getStdin) #[]
      pure (CommandLine.answerInput line)
    else pure (CommandLine.answer (" ".intercalate arguments))
  let outcome ← untilSettled attempt []
  out.putStr outcome.output
  out.flush
  (← IO.getStderr).putStr outcome.complaint
  return outcome.exit

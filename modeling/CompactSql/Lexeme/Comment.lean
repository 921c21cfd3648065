import CompactSql.Lexeme.Reading

/-!
# Comments

A comment goes from `--` to the end of its line, or from `/*` to the first `*/`. Its text is kept
without the spaces at both ends, and with the runs of spaces inside it folded: in a block comment
every run becomes one space, in a line comment a single space character stays as it is. A space is
here a character of the property `White_Space` without U+0085, or the byte order mark.

## Main definitions

* `isSpace` — whether a character is a space inside a comment.
* `Comment.trim` — a comment text without the spaces at its ends.
* `Comment.foldFrom`, `Comment.fold` — folding the runs of spaces of a text.
* `Comment.foldBlock`, `Comment.foldLine` — the text of a block comment, of a line comment.
* `Comment.readBlock`, `Comment.readLine` — the readings of comments.
-/

namespace CompactSql

/-- The spaces of a comment. -/
def spaces : CharClass := .mk [
    (0x9, 0xD), (0x20, 0x20), (0xA0, 0xA0), (0x1680, 0x1680), (0x2000, 0x200A), (0x2028, 0x2029),
    (0x202F, 0x202F), (0x205F, 0x205F), (0x3000, 0x3000), (0xFEFF, 0xFEFF)
  ]

/-- Whether `c` is a space inside a comment. -/
def isSpace (c : Char) : Bool := spaces.has c

namespace Comment

/-! ## The text of a comment -/

/-- The text without the spaces at its end. -/
def trimEnd (t : Text) : Text := (t.reverse.dropWhile isSpace).reverse

/-- The text without the spaces at both ends. -/
def trim (t : Text) : Text := trimEnd (t.dropWhile isSpace)

/-- What has been written once the run of spaces behind it is at its end: one space stands for the
run, if it has `shortest` characters or more. -/
def flush (shortest : Nat) (out run : Text) : Text :=
  if run.isEmpty then out
  else if shortest ≤ run.length then out ++ [' ']
  else out ++ run

/-- Goes on with a folding that has written `out` and has the run of spaces `run` behind it. -/
def foldFrom (shortest : Nat) (out run : Text) : Text → Text
  | [] => flush shortest out run
  | c :: t =>
    if isSpace c then foldFrom shortest out (run ++ [c]) t
    else foldFrom shortest (flush shortest out run ++ [c]) [] t

/-- The text with every run of `shortest` spaces or more folded into one space. -/
def fold (shortest : Nat) (t : Text) : Text := foldFrom shortest [] [] t

/-- The text of a block comment. -/
def foldBlock (body : Text) : Text := fold 1 (trim body)

/-- The text of a line comment. -/
def foldLine (body : Text) : Text := fold 2 (trim body)

/-! ## Reading a comment -/

/-- Reads a line comment whose two dashes have been passed, and the end of its line. -/
def readLine (t : Text) : Reading :=
  .ofText .comment (foldLine (t.takeWhile (· != '\n'))) ((t.dropWhile (· != '\n')).drop 1)

/-- Reads a block comment whose opening has been passed. -/
def readBlock (t : Text) : Reading :=
  match Text.cutAt ['*', '/'] t with
  | some (body, rest) => .ofText .comment (foldBlock body) rest
  | none => .dropped .unterminatedBlockComment []

theorem suffix_readLine (t : Text) : (readLine t).rest <:+ t :=
  (List.drop_suffix _ _).trans (List.dropWhile_suffix _)

theorem suffix_readBlock (t : Text) : (readBlock t).rest <:+ t := by
  unfold readBlock
  split
  · rename_i h
    exact Text.suffix_of_cutAt h
  · exact List.nil_suffix

end Comment

end CompactSql

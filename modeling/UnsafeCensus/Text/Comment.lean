/-!
# Block comments

Where a comment in delimiters ends. Such comments nest, so the delimiters inside one count.
-/

namespace UnsafeCensus.Text

/-- What the last character of a block comment may turn into with the next one. -/
inductive CommentState
  | plain
  | slash
  | star

/-- The text after a block comment that is open to some depth, from inside it. -/
def afterBlockComment? (state : CommentState) (depth : Nat) : List Char → Option (List Char)
  | [] => none
  | c :: cs =>
    match state, c with
    | .slash, '*' => afterBlockComment? .plain (depth + 1) cs
    | .slash, _ => afterBlockComment? .plain depth cs
    | .star, '/' =>
      match depth with
      | 0 => some cs
      | depth + 1 => afterBlockComment? .plain depth cs
    | .star, '*' => afterBlockComment? .star depth cs
    | .star, _ => afterBlockComment? .plain depth cs
    | .plain, '/' => afterBlockComment? .slash depth cs
    | .plain, '*' => afterBlockComment? .star depth cs
    | .plain, _ => afterBlockComment? .plain depth cs

end UnsafeCensus.Text

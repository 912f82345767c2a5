/-!
# Families of tags

A template holds three sorts of tags: blocks that control rendering, variables whose value is
rendered, and comments that leave no trace. Each has an opening and a closing delimiter.
-/

namespace TemplateTags

/-- The sort of a tag. -/
inductive Family where
  | block
  | var
  | comment
  deriving Repr, DecidableEq, Inhabited

/-- Every family, in the order in which their delimiters are looked for. -/
def Family.all : List Family :=
  [.block, .var, .comment]

end TemplateTags

import StyleScope.Sheet.Basic

/-!
A rule is scoped when it stands at the top level, or directly in an at-rule that only says when its
rules apply, and no rule is around it.
-/

namespace StyleScope

/-- Whether the rules of an at-rule are scoped as if they stood outside. -/
def AtRule.isTransparent (a : AtRule) : Bool :=
  "media".toList.isSuffixOf a.name || "supports".toList.isSuffixOf a.name ||
    "for".toList.isSuffixOf a.name

/-- Whether a node may be the parent of a rule that is scoped. -/
def NodeData.admits : NodeData → Bool
  | rule _ => false
  | atRule a => a.isTransparent
  | _ => true

/-- Whether a rule may be scoped. -/
def Sheet.isEligible (s : Sheet) (id : NodeId) : Bool :=
  match s.ancestors id with
  | [] => true
  | (_, parent) :: outer => parent.data.admits && !outer.any fun (_, n) => n.data.isRule

end StyleScope

import StyleScope.Scope.Pattern
import StyleScope.Selector.Component
import StyleScope.Text.Blank

/-!
A selector is scoped under a namespace in the first way that applies: its `html` component is
qualified, its self token is replaced, its root token is dropped, or the namespace is put in front.
A namespace with commas gives one variant for each of its parts.
-/

namespace StyleScope

/-- How selectors are scoped. -/
structure ScopePolicy where
  /-- Recognises the token that stands for the namespace itself. -/
  self : Matcher
  /-- Recognises the document root. -/
  root : Matcher
  /-- Selectors that start with the root token are not put under the namespace. -/
  ignoreRoot : Bool
  /-- The root token of such selectors is dropped. -/
  dropRoot : Bool
  /-- An `html` component is qualified instead. -/
  htmlTag : Bool
  deriving DecidableEq, Repr

namespace ScopePolicy

/-- The parts of a namespace, as written. -/
def alternatives (ns : Text) : List Text := Text.splitOn ',' ns

/-- One variant for each part of the namespace. -/
def variants (f : Text → Text) (ns : Text) : Text := Text.join [','] ((alternatives ns).map f)

/-- Appends the namespace to every `html` component; none if there is no such component. -/
def qualifyHtml? (selector ns : Text) : Option Text :=
  let components := Component.split selector
  let isHtml : Component → Bool := Component.isTypeNamed "html".toList
  if components.any isHtml then
    some (variants (fun part =>
      components.flatMap fun c => if isHtml c then c.text ++ Text.trim part else c.text) ns)
  else none

/-- The selector without its root token, unless nothing would be left. -/
def withoutRoot (p : ScopePolicy) (selector : Text) : Text :=
  if p.dropRoot then
    match Text.trim (p.root.replaceFirst [] selector) with
    | [] => selector
    | rest => rest
  else selector

/-- Scopes a selector that has no `html` component to qualify. -/
def scope (p : ScopePolicy) (selector ns : Text) : Text :=
  if p.self.isMatch selector then variants (fun part => p.self.replaceAll part selector) ns
  else if p.ignoreRoot && p.root.matchesAtStart selector then p.withoutRoot selector
  else variants (fun part => part ++ ' ' :: selector) ns

/-- Scopes a selector under a namespace. -/
def apply (p : ScopePolicy) (selector ns : Text) : Text :=
  if p.htmlTag then (qualifyHtml? selector ns).getD (p.scope selector ns)
  else p.scope selector ns

end ScopePolicy
end StyleScope

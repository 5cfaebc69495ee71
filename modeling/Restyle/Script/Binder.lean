import Restyle.Script.Tree

/-!
# Restyle.Script.Binder

Targets: the names that a target declares, and the target that an expression in its place
denotes.
-/

namespace Restyle
namespace Script

mutual

/-- Names that a target binds. -/
def Binder.names : Binder → List String
  | .nothing => []
  | .name x => [x]
  | .place _ => []
  | .orElse t _ => t.names
  | .field _ t => t.names
  | .object fields rest => Binder.allNames fields ++ rest.names
  | .array items rest => Binder.allNames items ++ rest.names

def Binder.allNames : List Binder → List String
  | [] => []
  | b :: bs => b.names ++ Binder.allNames bs

end

/-- Names that cannot be assigned to. -/
def isFixedName (x : String) : Bool := x == "eval" || x == "arguments"

mutual

/-- The target that an expression denotes in the place of one. -/
def Expr.target? : Expr → Option Binder
  | .name x => if isFixedName x then none else some (.name x)
  | .member false e k => some (.place (.member false e k))
  | .superMember k => some (.place (.superMember k))
  | .array items => Expr.itemTargets? items []
  | .object members => Member.targets? members []
  | _ => none

/-- The target of an item, which may have a default. -/
def Expr.itemTarget? : Expr → Option Binder
  | .hole => some .nothing
  | .assign t e => some (.orElse t e)
  | e => e.target?

def Expr.itemTargets? : List Expr → List Binder → Option Binder
  | [], out => some (.array out.reverse .nothing)
  | [.spread e], out => e.target?.map (.array out.reverse ·)
  | e :: es, out =>
    match e.itemTarget? with
    | some b => Expr.itemTargets? es (b :: out)
    | none => none

def Member.targets? : List Member → List Binder → Option Binder
  | [], out => some (.object out.reverse .nothing)
  | [.spread e], out => e.target?.map (.object out.reverse ·)
  | .field k e :: ms, out =>
    match e.itemTarget? with
    | some b => Member.targets? ms (.field k b :: out)
    | none => none
  | .parent e :: ms, out =>
    match e.itemTarget? with
    | some b => Member.targets? ms (.field (.string "__proto__") b :: out)
    | none => none
  | .nameDefault x e :: ms, out =>
    Member.targets? ms (.field (.string x) (.orElse (.name x) e) :: out)
  | _, _ => none

end

namespace Expr

/-- A function or class without a name takes the name of what it is bound to. -/
def named (e : Expr) (x : String) : Expr :=
  match e with
  | function f => if f.traits.name.isEmpty then function (f.rename x) else e
  | classOf none p c ms => classOf (some x) p c ms
  | _ => e

/-- Is it a function or class without a name? -/
def isAnonymous : Expr → Bool
  | function f => f.traits.name.isEmpty
  | classOf none _ _ _ => true
  | _ => false

/-- The name of a key that is not computed. -/
def keyText : Expr → String
  | string s => s.spell
  | hidden x => "#" ++ x
  | _ => ""

end Expr

namespace Func

/-- Does a function give nothing but a function or class without a name? -/
def givesAnonymous : Func → Bool
  | mk _ _ _ _ [.returns e] => e.isAnonymous
  | _ => false

end Func

namespace Member

/-- Names of hidden members. -/
def hiddenNames : List Member → List String
  | [] => []
  | m :: ms =>
    let own := match m with
      | .field (.hidden x) _ | .method (.hidden x) _ _ | .shared (.field (.hidden x) _)
      | .shared (.method (.hidden x) _ _) => [x]
      | _ => []
    own ++ hiddenNames ms

end Member

namespace Binder

/-- A target with a default, which takes the name of the target. -/
def withDefault (t : Binder) (e : Expr) : Binder :=
  match t with
  | name x => orElse t (e.named x)
  | _ => orElse t e

end Binder
end Script
end Restyle

import Restyle.Script.Binder

/-!
# Restyle.Script.Generator.Yields

Which parts of a program stand still at a `yield` of the function that they are part of, and the
operands of an expression: those parts whose values are all needed, in order, before the
expression has a value.
-/

namespace Restyle
namespace Script

mutual

/-- Is there a `yield` in it, outside the functions in it? -/
def Expr.yields : Expr → Bool
  | .yield _ _ => true
  | .template _ es _ | .array es | .superCall es => Expr.anyYields es
  | .tagged _ e _ es | .call _ e es | .construct e es => e.yields || Expr.anyYields es
  | .spread e | .unary _ e | .typeOf e | .delete e | .step _ _ e | .superMember e | .chain e
  | .await e => e.yields
  | .object ms => Member.anyYields ms
  | .classOf _ parent _ ms => parent.yields || Member.anyYields ms
  | .binary _ a b | .logical _ a b | .update _ a b | .member _ a b | .comma a b =>
    a.yields || b.yields
  | .conditional c a b => c.yields || a.yields || b.yields
  | .assign t e => t.yields || e.yields
  | _ => false

def Expr.anyYields : List Expr → Bool
  | [] => false
  | e :: es => e.yields || Expr.anyYields es

def Member.yields : Member → Bool
  | .field k e => k.yields || e.yields
  | .method k _ _ => k.yields
  | .spread e | .parent e | .nameDefault _ e => e.yields
  | .shared m => m.yields
  | .block _ => false

def Member.anyYields : List Member → Bool
  | [] => false
  | m :: ms => m.yields || Member.anyYields ms

def Binder.yields : Binder → Bool
  | .nothing | .name _ => false
  | .place e => e.yields
  | .orElse t e | .field e t => t.yields || e.yields
  | .object ts rest | .array ts rest => Binder.anyYields ts || rest.yields

def Binder.anyYields : List Binder → Bool
  | [] => false
  | t :: ts => t.yields || Binder.anyYields ts

end

mutual

/-- Is there a `yield` in it, outside the functions in it? -/
def Stmt.yields : Stmt → Bool
  | .expression e | .classDecl _ e | .returns e | .throws e => e.yields
  | .declare _ ts => Binder.anyYields ts
  | .branch c a b => c.yields || a.yields || b.yields
  | .loop _ _ start test next body => start.yields || test.yields || next.yields || body.yields
  | .each _ _ _ t e body => t.yields || e.yields || body.yields
  | .whileDo e s | .doWhile s e => e.yields || s.yields
  | .guarded body _ t handler final => body.yields || t.yields || handler.yields || final.yields
  | .switch e _ cs => e.yields || Stmt.anyYields cs
  | .case e body => e.yields || Stmt.anyYields body
  | .block _ _ body => Stmt.anyYields body
  | .labelled _ s => s.yields
  | _ => false

def Stmt.anyYields : List Stmt → Bool
  | [] => false
  | s :: ss => s.yields || Stmt.anyYields ss

end

/-- Is there a `yield` in the test of a case? -/
def Stmt.anyTestYields : List Stmt → Bool
  | [] => false
  | .case e _ :: ss => e.yields || Stmt.anyTestYields ss
  | _ :: ss => Stmt.anyTestYields ss

/-! ## Operands -/

namespace Member

/-- Operands of members: keys and values of fields, keys of methods. -/
def operands : List Member → List Expr
  | [] => []
  | .field k e :: ms => k :: e :: operands ms
  | .method k _ _ :: ms => k :: operands ms
  | .spread e :: ms | .parent e :: ms => e :: operands ms
  | _ :: ms => operands ms

/-- The members with other operands. -/
def withOperands : List Member → List Expr → List Member
  | .field _ _ :: ms, k :: e :: es => .field k e :: withOperands ms es
  | .method _ kind f :: ms, k :: es => .method k kind f :: withOperands ms es
  | .spread _ :: ms, e :: es => .spread e :: withOperands ms es
  | .parent _ :: ms, e :: es => .parent e :: withOperands ms es
  | m :: ms, es => m :: withOperands ms es
  | [], _ => []

/-- Keys of the members of a class. -/
def keys : List Member → List Expr
  | [] => []
  | .field k _ :: ms | .method k _ _ :: ms | .shared (.field k _) :: ms
  | .shared (.method k _ _) :: ms => k :: keys ms
  | _ :: ms => keys ms

/-- The members with other keys. -/
def withKeys : List Member → List Expr → List Member
  | .field _ e :: ms, k :: es => .field k e :: withKeys ms es
  | .method _ kind f :: ms, k :: es => .method k kind f :: withKeys ms es
  | .shared (.field _ e) :: ms, k :: es => .shared (.field k e) :: withKeys ms es
  | .shared (.method _ kind f) :: ms, k :: es => .shared (.method k kind f) :: withKeys ms es
  | m :: ms, es => m :: withKeys ms es
  | [], _ => []

end Member

namespace Expr

/-- The operands of an expression, in the order in which they are evaluated. -/
def operands : Expr → List Expr
  | template _ es _ | array es | superCall es => es
  | object ms => Member.operands ms
  | classOf _ parent _ ms => parent :: Member.keys ms
  | unary _ e | typeOf e | superMember e => [e]
  | delete (member _ b k) | step _ _ (member _ b k) | update _ (member _ b k) _
  | member _ b k => [b, k]
  | step _ _ (superMember k) | update _ (superMember k) _ => [k]
  | delete e => [e]
  | binary _ a b => [a, b]
  | construct f args => f :: args
  | assign (.place (member _ b k)) e => [b, k, e]
  | assign (.place (superMember k)) e => [k, e]
  | assign _ e => [e]
  | _ => []

/-- The expression with other operands. -/
def withOperands (e : Expr) (es : List Expr) : Expr :=
  match e, es with
  | template first _ texts, es => template first es texts
  | array _, es => array es
  | superCall _, es => superCall es
  | object ms, es => object (Member.withOperands ms es)
  | classOf x _ make ms, parent :: es => classOf x parent make (Member.withKeys ms es)
  | unary op _, [e] => unary op e
  | typeOf _, [e] => typeOf e
  | superMember _, [k] => superMember k
  | delete (member skip _ _), [b, k] => delete (member skip b k)
  | step up before (member skip _ _), [b, k] => step up before (member skip b k)
  | update op (member skip _ _) e, [b, k] => update op (member skip b k) e
  | member skip _ _, [b, k] => member skip b k
  | step up before (superMember _), [k] => step up before (superMember k)
  | update op (superMember _) e, [k] => update op (superMember k) e
  | delete _, [e] => delete e
  | binary op _ _, [a, b] => binary op a b
  | construct _ _, f :: args => construct f args
  | assign (.place (member skip _ _)) _, [b, k, e] => assign (.place (member skip b k)) e
  | assign (.place (superMember _)) _, [k, e] => assign (.place (superMember k)) e
  | assign t _, [e] => assign t e
  | e, _ => e

end Expr
end Script
end Restyle

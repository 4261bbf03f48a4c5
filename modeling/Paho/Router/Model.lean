import Paho.Router.Topic
import Mathlib.Data.List.AList

/-!
# Routers

`StandardRouter`, `StandardContextRouter` (`paho/router.go`) and `routercontext.Router` keep the
same state, a `Registry` of the default handler, the subscriptions and the topic alias cache, and
the two context routers add a middleware chain. Their methods are the same code, written once over
`Registry` and instantiated per router with its matcher and wrapping. A handler is a value of a
type `H`, and `Route` returns the calls it makes, or `none` for a panic in its own code. A
middleware is a function `H → H`: a nil one, or one that panics when applied, is not modelled. Go's
map iteration order is an argument of `Route`, taken by the theorems to be any permutation of the
map's entries.
-/

namespace Packets

/-- `packets.Properties`: of its fields the routers read `TopicAlias`. -/
structure Properties where
  topicAlias : Option UInt16
  deriving DecidableEq

/-- `packets.Publish`: of its fields the routers read `Topic` and `Properties`. -/
structure Publish where
  topic : String
  properties : Option Properties
  deriving DecidableEq

/-- The alias a publish carries, `*pb.Properties.TopicAlias`. -/
def Publish.topicAlias (pb : Publish) : Option UInt16 :=
  pb.properties.bind (·.topicAlias)

end Packets

namespace Paho

/-- `paho.Publish`: of its fields the routers read `Topic`. -/
structure Publish where
  topic : String
  deriving DecidableEq

/-- Modelled from the spec (`paho/cp_publish.go` is not in the sources): it copies `Topic`. -/
def publishFromPacketPublish (pb : Packets.Publish) : Publish :=
  ⟨pb.topic⟩

/-- A handler call made by `Route`: the handler, wrapped by the middlewares, and the message. -/
structure Call (H : Type) where
  handler : H
  publish : Publish
  deriving DecidableEq

/-- The state the routers share. -/
structure Registry (H : Type) where
  defaultHandler : Option H
  subscriptions : AList (fun _ : String => List H)
  aliases : AList (fun _ : UInt16 => String)

namespace Registry
variable {H : Type}

def empty : Registry H :=
  ⟨none, ∅, ∅⟩

def registerHandler (r : Registry H) (topic : String) (h : H) : Registry H :=
  { r with subscriptions :=
      r.subscriptions.insert topic ((r.subscriptions.lookup topic).getD [] ++ [h]) }

def unregisterHandler (r : Registry H) (topic : String) : Registry H :=
  { r with subscriptions := r.subscriptions.erase topic }

/-- `DefaultHandler`: `none` unsets it. -/
def setDefaultHandler (r : Registry H) (h : Option H) : Registry H :=
  { r with defaultHandler := h }

end Registry

/-! ## `Route` -/

section Route
variable {H : Type}

/-- The alias step of `Route`: the alias cache and the topic to match; `none` on nil `Properties`. -/
def resolveTopic (aliases : AList (fun _ : UInt16 => String)) (pb : Packets.Publish) (m : Publish) :
    Option (AList (fun _ : UInt16 => String) × String) :=
  match pb.properties with
  | none => none
  | some properties =>
      match properties.topicAlias with
      | none => some (aliases, m.topic)
      | some topicAlias =>
          let aliases := if pb.topic ≠ "" then aliases.insert topicAlias pb.topic else aliases
          some (aliases, (aliases.lookup topicAlias).getD "")

/-- The inner loop of `Route`, `for _, handler := range handlers`. -/
def invokeHandlers (wrap : H → H) (m : Publish) :
    List H → List (Call H) × Bool → List (Call H) × Bool
  | [], acc => acc
  | handler :: handlers, (calls, _) => invokeHandlers wrap m handlers (calls ++ [⟨wrap handler, m⟩], true)

/-- The outer loop of `Route`, `for route, handlers := range r.subscriptions`, in the order visited. -/
def dispatch (matcher : String → String → Option Bool) (wrap : H → H) (topic : String)
    (m : Publish) : List (Σ _ : String, List H) → List (Call H) × Bool → Option (List (Call H) × Bool)
  | [], acc => some acc
  | ⟨route, handlers⟩ :: entries, acc =>
      match matcher route topic with
      | none => none
      | some true => dispatch matcher wrap topic m entries (invokeHandlers wrap m handlers acc)
      | some false => dispatch matcher wrap topic m entries acc

/-- The calls `Route` makes once its topic is known; the default handler's when no other ran. -/
def Registry.deliver (r : Registry H) (matcher : String → String → Option Bool) (wrap : H → H)
    (topic : String) (m : Publish) (order : List (Σ _ : String, List H)) : Option (List (Call H)) :=
  (dispatch matcher wrap topic m order ([], false)).map fun (calls, handlerCalled) =>
    match handlerCalled, r.defaultHandler with
    | false, some defaultHandler => calls ++ [⟨wrap defaultHandler, m⟩]
    | _, _ => calls

/-- `Route`, with the router's `match` and handler wrapping. -/
def Registry.route (r : Registry H) (matcher : String → String → Option Bool) (wrap : H → H)
    (pb : Packets.Publish) (order : List (Σ _ : String, List H)) : Registry H × Option (List (Call H)) :=
  let m := publishFromPacketPublish pb
  match resolveTopic r.aliases pb m with
  | none => (r, none)
  | some (aliases, topic) => ({ r with aliases }, r.deliver matcher wrap topic m order)

/-- The state after `Route`: only the alias cache changes. -/
def Registry.afterRoute (r : Registry H) (pb : Packets.Publish) : Registry H :=
  match resolveTopic r.aliases pb (publishFromPacketPublish pb) with
  | none => r
  | some (aliases, _) => { r with aliases }

theorem Registry.route_fst (r : Registry H) (matcher : String → String → Option Bool) (wrap : H → H)
    (pb : Packets.Publish) (order : List (Σ _ : String, List H)) :
    (r.route matcher wrap pb order).1 = r.afterRoute pb := by
  cases resolved : resolveTopic r.aliases pb (publishFromPacketPublish pb) <;>
    simp [route, afterRoute, resolved]

end Route

/-! ## Middlewares -/

section Middleware
variable {H : Type}

/-- The loop of `wrapHandler`, `for i := len(r.middlewares) - 1; i >= 0; i--`. -/
def wrapLoop (middlewares : List (H → H)) : (i : Nat) → i ≤ middlewares.length → H → H
  | 0, _, h => h
  | i + 1, bound, h => wrapLoop middlewares i (Nat.le_of_succ_le bound) (middlewares[i] h)

/-- `wrapHandler`, the same in both context routers. -/
def wrapHandler (middlewares : List (H → H)) (h : H) : H :=
  if middlewares.length = 0 then h else wrapLoop middlewares middlewares.length le_rfl h

/-- The composition `m1(m2(... mn(h) ...))` of the middlewares `m1, ..., mn`. -/
def compose (middlewares : List (H → H)) (h : H) : H :=
  middlewares.foldr (fun middleware h => middleware h) h

theorem wrapLoop_eq (middlewares : List (H → H)) (i : Nat) (bound : i ≤ middlewares.length) (h : H) :
    wrapLoop middlewares i bound h = compose (middlewares.take i) h := by
  induction i generalizing h with
  | zero => rfl
  | succ i ih =>
      rw [wrapLoop, ih, List.take_succ, List.getElem?_eq_getElem (Nat.lt_of_succ_le bound),
        Option.toList_some, compose, compose, List.foldr_append]
      rfl

/-- `wrapHandler` is the composition of the chain, `m1` outermost. -/
theorem wrapHandler_eq (middlewares : List (H → H)) (h : H) :
    wrapHandler middlewares h = compose middlewares h := by
  unfold wrapHandler
  split
  · rename_i empty
    rw [List.length_eq_zero.mp empty]
    rfl
  · rw [wrapLoop_eq, List.take_length]

end Middleware

/-! ## The routers -/

/-- A call on a router; `Use` takes an `M`, and `route` the order the map's entries are visited in. -/
inductive Op (H M : Type)
  | registerHandler (topic : String) (h : H)
  | unregisterHandler (topic : String)
  | defaultHandler (h : Option H)
  | use (m : M)
  | route (pb : Packets.Publish) (order : List (Σ _ : String, List H))

def Op.uses {H M : Type} (ops : List (Op H M)) : List M :=
  ops.filterMap fun | .use m => some m | _ => none

namespace Registry
variable {H M : Type}

def step (r : Registry H) : Op H M → Registry H
  | .registerHandler topic h => r.registerHandler topic h
  | .unregisterHandler topic => r.unregisterHandler topic
  | .defaultHandler h => r.setDefaultHandler h
  | .use _ => r
  | .route pb _ => r.afterRoute pb

def exec (r : Registry H) (ops : List (Op H M)) : Registry H :=
  ops.foldl step r

theorem exec_append (r : Registry H) (ops : List (Op H M)) (op : Op H M) :
    r.exec (ops ++ [op]) = (r.exec ops).step op := by
  simp [exec, List.foldl_append]

end Registry

structure StandardRouter (H : Type) extends Registry H

def newStandardRouter {H : Type} : StandardRouter H :=
  ⟨Registry.empty⟩

namespace StandardRouter
variable {H : Type}

def registerHandler (r : StandardRouter H) (topic : String) (h : H) : StandardRouter H :=
  ⟨r.toRegistry.registerHandler topic h⟩

def unregisterHandler (r : StandardRouter H) (topic : String) : StandardRouter H :=
  ⟨r.toRegistry.unregisterHandler topic⟩

def setDefaultHandler (r : StandardRouter H) (h : Option H) : StandardRouter H :=
  ⟨r.toRegistry.setDefaultHandler h⟩

def route (r : StandardRouter H) (pb : Packets.Publish) (order : List (Σ _ : String, List H)) :
    StandardRouter H × Option (List (Call H)) :=
  (⟨(r.toRegistry.route Paho.match id pb order).1⟩, (r.toRegistry.route Paho.match id pb order).2)

def step (r : StandardRouter H) : Op H Empty → StandardRouter H
  | .registerHandler topic h => r.registerHandler topic h
  | .unregisterHandler topic => r.unregisterHandler topic
  | .defaultHandler h => r.setDefaultHandler h
  | .use m => m.elim
  | .route pb order => (r.route pb order).1

def exec (r : StandardRouter H) (ops : List (Op H Empty)) : StandardRouter H :=
  ops.foldl step r

theorem exec_toRegistry (r : StandardRouter H) (ops : List (Op H Empty)) :
    (r.exec ops).toRegistry = r.toRegistry.exec ops := by
  induction ops generalizing r with
  | nil => rfl
  | cons op ops ih =>
      rw [exec, List.foldl_cons, ← exec, ih]
      cases op with
      | use m => exact m.elim
      | _ => simp [step, Registry.step, registerHandler, unregisterHandler, setDefaultHandler, route,
          Registry.route_fst, Registry.exec]

end StandardRouter

def newStandardRouterWithDefault {H : Type} (h : H) : StandardRouter H :=
  newStandardRouter.setDefaultHandler (some h)

def newSingleHandlerRouter {H : Type} (h : H) : StandardRouter H :=
  newStandardRouterWithDefault h

structure StandardContextRouter (H : Type) extends Registry H where
  middlewares : List (H → H)

def newStandardContextRouter {H : Type} : StandardContextRouter H :=
  ⟨Registry.empty, []⟩

namespace StandardContextRouter
variable {H : Type}

def registerHandler (r : StandardContextRouter H) (topic : String) (h : H) : StandardContextRouter H :=
  { r with toRegistry := r.toRegistry.registerHandler topic h }

def unregisterHandler (r : StandardContextRouter H) (topic : String) : StandardContextRouter H :=
  { r with toRegistry := r.toRegistry.unregisterHandler topic }

def setDefaultHandler (r : StandardContextRouter H) (h : Option H) : StandardContextRouter H :=
  { r with toRegistry := r.toRegistry.setDefaultHandler h }

def use (r : StandardContextRouter H) (m : H → H) : StandardContextRouter H :=
  { r with middlewares := r.middlewares ++ [m] }

def wrapHandler (r : StandardContextRouter H) (h : H) : H :=
  Paho.wrapHandler r.middlewares h

def route (r : StandardContextRouter H) (pb : Packets.Publish) (order : List (Σ _ : String, List H)) :
    StandardContextRouter H × Option (List (Call H)) :=
  ({ r with toRegistry := (r.toRegistry.route Paho.match r.wrapHandler pb order).1 },
    (r.toRegistry.route Paho.match r.wrapHandler pb order).2)

def step (r : StandardContextRouter H) : Op H (H → H) → StandardContextRouter H
  | .registerHandler topic h => r.registerHandler topic h
  | .unregisterHandler topic => r.unregisterHandler topic
  | .defaultHandler h => r.setDefaultHandler h
  | .use m => r.use m
  | .route pb order => (r.route pb order).1

def exec (r : StandardContextRouter H) (ops : List (Op H (H → H))) : StandardContextRouter H :=
  ops.foldl step r

theorem exec_toRegistry (r : StandardContextRouter H) (ops : List (Op H (H → H))) :
    (r.exec ops).toRegistry = r.toRegistry.exec ops := by
  induction ops generalizing r with
  | nil => rfl
  | cons op ops ih =>
      rw [exec, List.foldl_cons, ← exec, ih]
      cases op <;> simp [step, Registry.step, registerHandler, unregisterHandler, setDefaultHandler,
        use, route, Registry.route_fst, Registry.exec]

theorem exec_middlewares (r : StandardContextRouter H) (ops : List (Op H (H → H))) :
    (r.exec ops).middlewares = r.middlewares ++ Op.uses ops := by
  induction ops generalizing r with
  | nil => simp [exec, Op.uses]
  | cons op ops ih =>
      rw [exec, List.foldl_cons, ← exec, ih]
      cases op <;> simp [step, registerHandler, unregisterHandler, setDefaultHandler, use, route,
        Op.uses]

end StandardContextRouter

end Paho

namespace RouterContext
open Paho

/-- `routercontext.match` and its helpers, which repeat `paho`'s code verbatim. -/
def «match» (route topic : String) : Option Bool :=
  Paho.match route topic

structure Router (H : Type) extends Registry H where
  middlewares : List (H → H)

def newRouter {H : Type} : Router H :=
  ⟨Registry.empty, []⟩

namespace Router
variable {H : Type}

def registerHandler (r : Router H) (topic : String) (h : H) : Router H :=
  { r with toRegistry := r.toRegistry.registerHandler topic h }

def unregisterHandler (r : Router H) (topic : String) : Router H :=
  { r with toRegistry := r.toRegistry.unregisterHandler topic }

def setDefaultHandler (r : Router H) (h : Option H) : Router H :=
  { r with toRegistry := r.toRegistry.setDefaultHandler h }

/-- `Use(m ...)`, variadic. -/
def use (r : Router H) (m : List (H → H)) : Router H :=
  { r with middlewares := r.middlewares ++ m }

def wrapHandler (r : Router H) (h : H) : H :=
  Paho.wrapHandler r.middlewares h

def route (r : Router H) (pb : Packets.Publish) (order : List (Σ _ : String, List H)) :
    Router H × Option (List (Call H)) :=
  ({ r with toRegistry := (r.toRegistry.route RouterContext.match r.wrapHandler pb order).1 },
    (r.toRegistry.route RouterContext.match r.wrapHandler pb order).2)

def step (r : Router H) : Op H (List (H → H)) → Router H
  | .registerHandler topic h => r.registerHandler topic h
  | .unregisterHandler topic => r.unregisterHandler topic
  | .defaultHandler h => r.setDefaultHandler h
  | .use m => r.use m
  | .route pb order => (r.route pb order).1

def exec (r : Router H) (ops : List (Op H (List (H → H)))) : Router H :=
  ops.foldl step r

theorem exec_toRegistry (r : Router H) (ops : List (Op H (List (H → H)))) :
    (r.exec ops).toRegistry = r.toRegistry.exec ops := by
  induction ops generalizing r with
  | nil => rfl
  | cons op ops ih =>
      rw [exec, List.foldl_cons, ← exec, ih]
      cases op <;> simp [step, Registry.step, registerHandler, unregisterHandler, setDefaultHandler,
        use, route, Registry.route_fst, Registry.exec]

theorem exec_middlewares (r : Router H) (ops : List (Op H (List (H → H)))) :
    (r.exec ops).middlewares = r.middlewares ++ (Op.uses ops).flatten := by
  induction ops generalizing r with
  | nil => simp [exec, Op.uses]
  | cons op ops ih =>
      rw [exec, List.foldl_cons, ← exec, ih]
      cases op <;> simp [step, registerHandler, unregisterHandler, setDefaultHandler, use, route,
        Op.uses]

end Router
end RouterContext

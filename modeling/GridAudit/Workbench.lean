import GridAudit.Definition.Json
import GridAudit.Factory.Folding

/-!
# Workbenches

A workbench is a registry in use: with it go the factories that were resolved and not registered,
the nodes that are evaluated by themselves, and the rules kept in the trees of all of these.
Factories that are not registered and nodes go by the number they were put down with.
-/

namespace GridAudit

/-- A registry, factories not registered, nodes, and the rules kept in trees. The place of a factory
that was taken out stays empty. -/
structure Workbench where
  registry : Registry
  pending : List (Option Factory)
  nodes : List Node
  folds : Folds

namespace Workbench

/-- What a request leaves: the workbench and the answer. -/
structure Outcome (α : Type) where
  bench : Workbench
  answer : α

/-- A workbench on which only a registry lies. -/
def new (r : Registry) : Workbench := ⟨r, [], [], .empty⟩

/-- The factory that was put down with a number, unless it was taken out. -/
def pending? (w : Workbench) (handle : Nat) : Option Factory := w.pending[handle]?.join

/-- The node that was put down with a number. -/
def node? (w : Workbench) (handle : Nat) : Option Node := w.nodes[handle]?

/-- Set whether trees are optimized. -/
def setOptimize (w : Workbench) (optimize : Bool) : Workbench :=
  { w with registry := { w.registry with optimize } }

/-- Load definitions from text. The answer lists the factories registered, and the failure. -/
def load (w : Workbench) (text : String) : Outcome (List String × Option RegistryError) :=
  let loading := w.registry.loadText text
  ⟨{ w with registry := loading.registry }, loading.names, loading.failure⟩

/-- Resolve a definition and put its factory down. -/
def define (w : Workbench) (d : FactoryDefinition) : Outcome (Except RegistryError Nat) :=
  match d.resolve w.registry with
  | .error e => ⟨w, .error e⟩
  | .ok f => ⟨{ w with pending := w.pending ++ [some f] }, .ok w.pending.length⟩

/-- Register a factory that was put down, with the rules kept in its tree. One that is refused is
gone. -/
def register (w : Workbench) (handle : Nat) (f : Factory) : Outcome (Except RegistryError String) :=
  let pending := w.pending.set handle none
  match w.registry.register f with
  | .error e => ⟨{ w with pending, folds := w.folds.drop (.pending handle) }, .error e⟩
  | .ok registry =>
    let folds := w.folds.move (.pending handle) (.registered f.name)
    ⟨{ w with registry, pending, folds }, .ok f.name⟩

/-- Resolve the definition of a node and put the node down. -/
def keepNode (w : Workbench) (d : NodeDefinition) : Outcome (Except RegistryError Nat) :=
  match d.resolve w.registry with
  | .error e => ⟨w, .error e⟩
  | .ok n => ⟨{ w with nodes := w.nodes ++ [n] }, .ok w.nodes.length⟩

/-- Run an evaluation on the rules kept so far. -/
def run {α : Type} (w : Workbench) (x : Folding α) : Outcome (Except InstantiationError α) :=
  let (answer, folds) := x.exec w.folds
  ⟨{ w with folds }, answer⟩

/-- Evaluate a node that was put down. -/
def evaluate (w : Workbench) (vars : Variables) (handle : Nat) (n : Node) (optimize : Bool)
    (arguments : List Argument) : Outcome (Except InstantiationError (List Argument)) :=
  w.run (n.evaluateKeeping (w.registry.environment vars) optimize (.root (.node handle)) arguments)

/-- Build a rule with a factory, where its tree has an owner. -/
def build (w : Workbench) (vars : Variables) (owner : TreeOwner) (f : Factory) (optimize : Bool)
    (arguments : List Argument) : Outcome (Except InstantiationError Instance) :=
  w.run (Node.instantiateKeeping (w.registry.environment vars) optimize owner f arguments)

/-- Build a rule with a factory that was put down. -/
def buildPending (w : Workbench) (vars : Variables) (handle : Nat) (f : Factory) (optimize : Bool)
    (arguments : List Argument) : Outcome (Except InstantiationError Instance) :=
  w.build vars (.pending handle) f optimize arguments

/-- Build a rule with a registered factory. -/
def buildRegistered (w : Workbench) (vars : Variables) (name : String) (optimize : Bool)
    (arguments : List Argument) : Outcome (Except RegistryError Instance) :=
  match w.registry.factory name with
  | .error e => ⟨w, .error e⟩
  | .ok f =>
    let built := w.build vars (.registered name) f optimize arguments
    ⟨built.bench, built.answer.mapError .instantiation⟩

/-- Build a rule by the name of its factory, as the registry is set. -/
def instantiate (w : Workbench) (vars : Variables) (name : String) (arguments : List Argument) :
    Outcome (Except RegistryError Instance) :=
  w.buildRegistered vars name w.registry.optimize arguments

/-- The rule that the definition of a node builds by itself. What is below the node is not
optimized. -/
def instantiateDefinition (w : Workbench) (vars : Variables) (d : NodeDefinition) :
    Outcome (Except RegistryError Instance) :=
  match d with
  | .call _ name children =>
    match NodeDefinition.yieldAll w.registry vars children with
    | .error e => ⟨w, .error e⟩
    | .ok arguments => w.instantiate vars name arguments
  | d => ⟨w, .error (.notARule d.kind)⟩

end Workbench

end GridAudit

/-
Kinds of parsers. A kind is defined once: the operations that its code may call, its addins, the
presets of every fresh record, and its rules. Whatever is wrong with it is found then: an addin
that is not known or exposes what it does not support, a binding that its receiver does not
support, a rule of the wrong shape.
-/
import Logline.Addin.DateTime
import Logline.RuleSet
import Logline.Sandbox.Context

namespace Logline

/-- A kind of parser. -/
structure ParserKind where
  name : String
  whitelist : List (String × Receiver)
  addins : List Addin
  presets : List (Key × Value)
  rules : RuleSet

/-- What a kind of parser is defined by. -/
structure Blueprint where
  name : String
  whitelist : List (String × Receiver)
  addins : List AddinRef
  registry : Registry
  presets : List (String × Value)
  rules : List Declaration

namespace Blueprint

/-- A kind of parser without anything but rules. -/
def ofRules (name : String) (rules : List Declaration) : Blueprint :=
  ⟨name, [], [], .builtin, [], rules⟩

end Blueprint

namespace ParserKind

/-- All bindings of a kind: its own, then those of its addins. -/
def allBindings (whitelist : List (String × Receiver)) (addins : List Addin) :
    List (String × Receiver) :=
  whitelist ++ addins.flatMap Addin.bindings

/-- Defines a kind of parser. The bindings are compiled once to see that they can be. -/
def define (b : Blueprint) : Except Error ParserKind :=
  match b.addins.mapM (AddinRef.resolve b.registry) with
  | .error cause => .error cause
  | .ok addins =>
    match (Context.empty.bindAll (allBindings b.whitelist addins)).compile.1 with
    | .error cause => .error cause
    | .ok _ =>
      match RuleSet.ofDeclarations b.rules with
      | .error cause => .error cause
      | .ok rules =>
        .ok ⟨b.name, b.whitelist, addins, b.presets.map fun p => (.symbol p.1, p.2), rules⟩

def debug (k : ParserKind) : String :=
  "ParserType \x7b name: " ++ Text.quoted k.name ++
    ", whitelist: " ++ debugTexts (k.whitelist.map Prod.fst) ++
    ", addins: [" ++ Value.commaSeparated (k.addins.map Addin.debug) ++ "]" ++
    ", presets: [" ++ Value.commaSeparated (k.presets.map fun p =>
      "(" ++ p.1.debug ++ ", " ++ p.2.debug ++ ")") ++ "]" ++
    ", rules: " ++ toString k.rules.length ++ " \x7d"

end ParserKind

end Logline

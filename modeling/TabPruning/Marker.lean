import TabPruning.Document
import TabPruning.Text.Unicode

namespace TabPruning

inductive Marker
  | automation
  | integrations
  | team
  deriving DecidableEq, Repr

namespace Marker

def all : List Marker :=
  [automation, integrations, team]

def tabName : Marker → String
  | automation   => "automation"
  | integrations => "integrations"
  | team         => "team"

def trigger (m : Marker) : String :=
  "activeTab === '" ++ m.tabName ++ "'"

def ofTabName? (s : String) : Option Marker :=
  all.find? (·.tabName = s)

theorem ofTabName?_tabName (m : Marker) : ofTabName? m.tabName = some m := by
  cases m <;> rfl

-- Reads a tab name in any mixture of capital and small letters.
def ofText? (s : String) : Option Marker :=
  ofTabName? (String.ofList (lowercase s.toList))

end Marker

-- The markers to look for, in the order in which they claim a line.
structure Detector where
  markers : List Marker

-- Found before any other, whatever is imported.
instance instDecidableInfix (text : List Char) (l : Line) : Decidable (text <:+: l) :=
  List.instDecidableIsInfixOfDecidableEq text l

namespace Detector

-- A repeated marker counts where it first stands.
def ofMarkers (ms : List Marker) : Detector :=
  ⟨ms.eraseDups⟩

def marker? (d : Detector) (l : Line) : Option Marker :=
  d.markers.find? fun m => m.trigger.toList <:+: l

def marks (d : Detector) (l : Line) : Bool :=
  (d.marker? l).isSome

end Detector

end TabPruning

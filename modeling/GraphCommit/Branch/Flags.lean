/-!
# Flags of the coordinator

The coordinator passes a 32-bit flag word to `start`, `end` and `recover`.  The values are those
of the X/Open standard.  A word that the standard does not name is kept as it is; whoever is
called with it refuses it.
-/

namespace GraphCommit

/-- A flag word of the coordinator. -/
structure Flags where
  bits : UInt32
  deriving DecidableEq, Repr, Inhabited

namespace Flags

def none : Flags := ⟨0⟩
def join : Flags := ⟨0x00200000⟩
def endScan : Flags := ⟨0x00800000⟩
def startScan : Flags := ⟨0x01000000⟩
def suspend : Flags := ⟨0x02000000⟩
def success : Flags := ⟨0x04000000⟩
def resume : Flags := ⟨0x08000000⟩
def fail : Flags := ⟨0x20000000⟩
def onePhase : Flags := ⟨0x40000000⟩

/-- The words that the standard names, with their names. -/
def named : List (Flags × String) :=
  [(none, "TMNOFLAGS"), (join, "TMJOIN"), (endScan, "TMENDRSCAN"), (startScan, "TMSTARTRSCAN"),
   (suspend, "TMSUSPEND"), (success, "TMSUCCESS"), (resume, "TMRESUME"), (fail, "TMFAIL"),
   (onePhase, "TMONEPHASE")]

/-- The standard's name of the word, or its decimal value. -/
def text (f : Flags) : String :=
  match named.find? (fun entry => entry.1 == f) with
  | some entry => entry.2
  | Option.none => toString f.bits.toNat

end Flags

end GraphCommit

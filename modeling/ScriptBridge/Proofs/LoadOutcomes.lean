import ScriptBridge.Proofs.ScriptSets

/-!
# What loading one script comes to

Loading can fail before the host hears of it: the path gives no identity, or it leads to no file. Then nothing runs. With a
path that is fit, the host is asked for its messages if a level is configured, and whatever it answers the script's own
loading runs on the host as it is then. That alone decides. Where it fails nothing follows and the set stays as it was; where
it succeeds the script is brought to the host and stands last in the set.
-/
namespace ScriptBridge
namespace ScriptSet

/-- A path that gives an identity and leads to a file. -/
structure Fit (files : FileSystem) (path : Path) (identity : ScriptId) : Prop where
  named : ScriptId.ofPath? path = some identity
  resolved : ∃ file, ResolvedScript.resolve files path = .ok file

section Vetting

variable {files : FileSystem} {path : Path}

theorem Fit.identity_eq {identity other : ScriptId} (fit : Fit files path identity) (again : Fit files path other) :
    identity = other := Option.some.inj (fit.named.symm.trans again.named)

end Vetting

variable (set : ScriptSet) {files : FileSystem} {path : Path} {identity : ScriptId}

section Outcomes

variable {onLoad : OnLoad} {host : Host} {state : host.State}

end Outcomes

/-- The host refuses to deliver its messages, and the script is loaded. -/
example :
    let files : FileSystem := ⟨.directory [(Utf8.encode "a.py", .file .empty)], []⟩
    let refusing : SimulatedHost := { refusals := [(.enableMessages, .invalidParameter "log level warn")] }
    let left := ((⟨{ messageLevel := some "warn" }, []⟩ : ScriptSet).load files (.ofString "a.py")
      fun script => pure (.ok script)).run SimulatedHost.host refusing
    left.value.1 = .ok ⟨"a"⟩ ∧ left.calls = [.enableMessages "warn", .log .debug "(a) flushing"] := by
  exact ⟨rfl, rfl⟩

end ScriptSet
end ScriptBridge

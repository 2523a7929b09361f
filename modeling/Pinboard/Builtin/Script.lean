import Pinboard.Builtin.Basic
import Pinboard.Script.Sandbox

/-!
# The script directive

The body is a script that may call all other directives, or one that runs in a browser tab. A script
that is refused, raises an error or takes too long gives nothing.
-/
namespace Pinboard.Builtin

open Pinboard.Script

variable {σ : Type} (services : Services σ)

/-- The result of a script. One that is refused, runs too long or raises an error gives nothing;
that a script cannot be read or run at all is a fault. -/
def scriptResult : Except ScriptFault String → Action σ Reply
  | .ok text => pure (.ofText text)
  | .error (.forbidden ..) | .error .timeout | .error (.raised ..) => pure Reply.nothing
  | .error cause => throw (.script cause)

def script : Directive σ :=
  { directive .script "script"
      "The value of the final expression of a sandboxed Python script." fun m context reentry => do
        if Text.isBlankText m.bodyText then pure Reply.nothing
        else
          match givenParam? m "target" with
          | some browser => do
            let platform ← services.needPlatform
            pure (.value (Json.ofOption .str (← platform.runInBrowser m.bodyText browser)))
          | none => do
            let way ← Action.demand .noResolver reentry
            scriptResult (← Action.total ((Sandbox.ofContext way context none).run m.bodyText)) with
    aliases := ["py", "python"]
    example_ := marked "py:len((await pinNames()).split(', '))" }

end Pinboard.Builtin

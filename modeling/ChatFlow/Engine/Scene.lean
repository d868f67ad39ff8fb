import ChatFlow.Chat.Surface
import ChatFlow.Settings.Basic
import ChatFlow.Template.Render

/-!
# Scenes

What stays the same while a workflow runs: the message, the chat it came from, and the settings.
-/

namespace ChatFlow

/-- **A scene**: what a run of a workflow does not change. -/
structure Scene where
  /-- the message -/
  occasion : Occasion
  /-- the chat -/
  surface : Surface
  /-- the settings -/
  settings : Settings

namespace Scene

/-- A template rendered for the message. -/
def render (scene : Scene) (template : String) : Act World String :=
  Template.render scene.occasion template

/-- A template rendered, or a default one where it is blank. -/
def renderOr (scene : Scene) (template default : String) : Act World String :=
  scene.render (if template = "" then default else template)

/-- A request to the chat. -/
def ask (scene : Scene) (r : ChatRequest) : Act World Value := scene.surface.perform r

/-- A request to the chat whose answer does not matter. -/
def tell (scene : Scene) (r : ChatRequest) : Act World Unit := do
  let _ ← scene.ask r

/-- Text, unless it is blank. -/
def nonblank (s : String) : Option String := if s = "" then none else some s

end Scene

end ChatFlow

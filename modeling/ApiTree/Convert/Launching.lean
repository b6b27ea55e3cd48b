import ApiTree.Convert.Run
import ApiTree.Interp.Launch

namespace ApiTree.Convert

/-!
# Launching the interpreter of a run

The settings of a run name the interpreter and the time that it may take.
-/

/-- The launcher that finds an interpreter by the settings of a run. -/
def interpreterLauncher
    (bindings : List (String × String))
    (searchPath : List String)
    (settings : Settings) :
    Launcher :=
  fun disk expressions =>
    Interp.parseBatch
      { bindings := bindings, searchPath := searchPath, disk := disk }
      settings.interpreter settings.milliseconds expressions

end ApiTree.Convert

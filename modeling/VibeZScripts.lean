import VibeZScripts.Python.Unicode
import VibeZScripts.Python.Text
import VibeZScripts.Python.Findall
import VibeZScripts.Markdown.Consolidate
import VibeZScripts.Markdown.Layout
import VibeZScripts.Markdown.Delete
import VibeZScripts.Load.Shape
import VibeZScripts.Load.User
import VibeZScripts.Extract.Patterns
import VibeZScripts.Extract.Literals
import VibeZScripts.Python.Dict
import VibeZScripts.Extract.Report
import VibeZScripts.Extract.Layout
import VibeZScripts.Assets.Setup
import VibeZScripts.Assets.CopyRename

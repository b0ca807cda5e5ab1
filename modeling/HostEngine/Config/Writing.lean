import HostEngine.Config.Basic
import HostEngine.Yaml.Print
/-!
Configurations as documents. Sections stand in a fixed order; a standalone section and a search path
are left out when there is none.
-/
set_option autoImplicit false

namespace HostEngine.Config

open Yaml (Node Mark Properties)

def textNode (text : String) : Node :=
  .scalar .start .none (Yaml.Print.styleOf text) text

def numberNode (n : Nat) : Node := .scalar .start .none .plain (decimal n)

def keyNode (name : String) : Node := .scalar .start .none .plain name

def sectionNode (entries : List (String × Node)) : Node :=
  .mapping .start .none (entries.map fun (name, value) => (keyNode name, value))

def standaloneNode (standalone : StandaloneConfig) : Node :=
  sectionNode [("address", textNode standalone.address),
    ("address_is_unix_socket", numberNode standalone.flag.toNat)]

def childNode (child : ChildOptions) : Node :=
  sectionNode <| [("executable", textNode child.executable)] ++
    (child.searchPath.map fun path => ("search_path", textNode path)).toList ++
    [("scratch_directory", textNode child.scratchDirectory.shown),
      ("socket_prefix", textNode child.socketStem)]

def toNode (config : Config) : Node :=
  sectionNode <| [("mode", textNode config.mode.documentName), ("log_level", textNode config.logLevel),
      ("library", sectionNode [("name", textNode config.library)])] ++
    (config.standalone.map fun standalone => ("standalone", standaloneNode standalone)).toList ++
    [("hostengine", childNode config.child)]

def write (config : Config) : String := Yaml.Print.document config.toNode

def writeMode (mode : Mode) : String := Yaml.Print.document (textNode mode.documentName)

end HostEngine.Config

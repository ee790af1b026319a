/-! # The usual document

The document that is read unless another one is named lies in a folder of the home directory.
-/

set_option autoImplicit false

namespace Household.Home

def below (folder part : String) : String :=
  if folder.isEmpty || folder.toList.getLast? = some '/' then folder ++ part
  else folder ++ "/" ++ part

def folder (home : Option String) : String := below (home.getD "/tmp") ".hearth"

def document (home : Option String) : String := below (folder home) "profiles.toml"

end Household.Home

/-! The release that this library speaks of itself as. -/

namespace QueryBinding.Release

def version : String := "0.1.0"

def project : String := "sqlbinder"

end QueryBinding.Release

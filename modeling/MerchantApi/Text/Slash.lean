/-!
# Slashes at the ends of paths

Bases lose their trailing slashes and paths their leading ones, so that the two
are joined by exactly one.
-/

namespace MerchantApi.Text

def dropTrailingSlashes (s : String) : String :=
  String.ofList (s.toList.reverse.dropWhile (· = '/')).reverse

def dropLeadingSlashes (s : String) : String :=
  String.ofList (s.toList.dropWhile (· = '/'))

end MerchantApi.Text

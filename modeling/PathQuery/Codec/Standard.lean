import PathQuery.Toml.Reader
import PathQuery.Xml.Element

namespace PathQuery

def Codecs.standard (numbers : NumberStyle) : Codecs :=
  (((Codecs.none numbers).add .json readJson).add .toml Toml.read).add .xml Xml.read

end PathQuery

import AssetBundle.Package.Version

/-!
# AssetBundle.Package.Metadata

What the package tells an index of itself: its name, its version and documentation, what it
requires, and how it is classified. All but version and documentation is fixed.
-/

namespace AssetBundle
namespace Metadata

def packageName : Text := "embedstatics"

/-- The main module below the directory of a package. -/
def mainModule : Text := "embedstatics/__init__.py"

/-- The package's own version and documentation. -/
def own : Documented :=
  let lines : List String := [
    "",
    "Embedstatics - embed a directory of static files and serve it over HTTP",
    "",
    "Embedstatics compiles the files in a directory into an importable Python",
    "module: a content-addressed table of gzipped assets, each with a strong",
    "ETag. At run time, the table is served from memory, so a server that",
    "mostly speaks another protocol (e.g. websockets) can also answer plain",
    "HTTP requests for its web pages, scripts and images, with correct caching."]
  ⟨"0.3.0", Text.ofLines lines⟩

def texts (items : List String) : Value :=
  .list (items.map fun item => Value.text (Text.ofString item))

/-- Extra requirements by the purpose they serve. -/
def extras : Value := .dict [
  ("test", texts ["pytest", "pytest-cov", "requests"]),
  ("dev", texts ["invoke", "black", "flake8"]),
  ("uvicorn", texts ["uvicorn"]),
  ("hypercorn", texts ["hypercorn"]),
  ("daphne", texts ["daphne"])]

def classifiers : Value := texts [
  "Development Status :: 4 - Beta",
  "Intended Audience :: Developers",
  "Topic :: Internet :: WWW/HTTP",
  "License :: OSI Approved :: BSD License",
  "Operating System :: MacOS :: MacOS X",
  "Operating System :: Microsoft :: Windows",
  "Operating System :: POSIX",
  "Programming Language :: Python :: 3"]

/-- All that is told of a package. -/
def fields (d : Documented) : List (Text × Value) := [
  ("name", .text packageName),
  ("version", .text d.version),
  ("license", .text "(new) BSD"),
  ("keywords", .text "static assets embed HTTP ETag gzip ASGI"),
  ("description", .text "Embed a directory of static files and serve it over HTTP"),
  ("long_description", .text d.document),
  ("platforms", .text "any"),
  ("provides", .list [.text packageName]),
  ("python_requires", .text ">=3.8"),
  ("install_requires", .list []),
  ("extras_require", extras),
  ("packages", .list [.text packageName]),
  ("entry_points", .dict [
    ("console_scripts", texts ["embedstatics = embedstatics._compiler:main"])]),
  ("zip_safe", .bool true),
  ("classifiers", classifiers)]

/-- What is told of the package in a directory. -/
def ofDirectory (files : Tree) : Outcome (List (Text × Value)) :=
  match Documented.ofFile files mainModule with
  | .error e => .error e
  | .ok d => .ok (fields d)

end Metadata
end AssetBundle

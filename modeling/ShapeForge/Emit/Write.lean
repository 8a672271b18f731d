import ShapeForge.Emit.Package
import ShapeForge.Files.Disk

/-!
# Writing packages

Packages are written below an output directory, each into its own directory.  Neither a package
nor a file can leave the place that it is written to.
-/

namespace ShapeForge.Emit

def writePackageFile (dir : String) (file : PackageFile) : Disk Unit := do
  if Path.base file.name != file.name then
    throw (.plain ("invalid file name " ++ Text.quote file.name ++
      ": must not contain path separators"))
  Disk.within (.context ("failed to write file " ++ file.name))
    (Disk.change (·.writeFile (Path.join [dir, file.name]) file.content))

def writeDir (dir : String) (files : List PackageFile) : Disk Unit := do
  Disk.within (.context "failed to create directory") (Disk.change (·.makeDirs dir))
  Disk.each (writePackageFile dir) files

def staysInside (output dir : String) : Bool :=
  ((Path.rel? output dir).map Path.isLocal).getD false

def writePackage (output : String) (package : Package) : Disk Unit := do
  let dir := Path.join [output, package.dir]
  if !staysInside output dir then
    throw (.plain ("invalid package directory " ++ Text.quote package.dir ++
      ": must stay inside " ++ output))
  Disk.within (.context ("package " ++ package.space)) (writeDir dir package.files)

def writePackages (output : String) (packages : List Package) : Disk Unit := do
  Disk.within (.context "failed to create output directory") (Disk.change (·.makeDirs output))
  Disk.each (writePackage output) packages

def writeSingle (path content : String) : Disk Unit := do
  Disk.within (.context "failed to create directory") (Disk.change (·.makeDirs (Path.dir path)))
  Disk.within (.context "failed to write file") (Disk.change (·.writeFile path content))

end ShapeForge.Emit

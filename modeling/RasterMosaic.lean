import RasterMosaic.Config.Json
import RasterMosaic.Geocoding.Json
import RasterMosaic.Geometry.Json
import RasterMosaic.Product.Basic
import RasterMosaic.Product.Json
import RasterMosaic.Source.Any
import RasterMosaic.Proofs.Pyramid.LevelStore
import RasterMosaic.Proofs.Pyramid.Rounding
import RasterMosaic.Proofs.Raster.Compositing
import RasterMosaic.Proofs.Source.Conduct
import RasterMosaic.Proofs.Source.Decimated
import RasterMosaic.Proofs.Mosaic.Composition
import RasterMosaic.Proofs.Mosaic.Requests
import RasterMosaic.Proofs.Mosaic.Image
import RasterMosaic.Proofs.Mosaic.Caching
import RasterMosaic.Proofs.Pyramid.History
import RasterMosaic.Proofs.Mosaic.Covering
import RasterMosaic.Proofs.Mosaic.Seams
import RasterMosaic.Proofs.Mosaic.Rounds
import RasterMosaic.Proofs.Source.Counted
import RasterMosaic.Proofs.Mosaic.Accounting
import RasterMosaic.Proofs.Mosaic.Disposal
import RasterMosaic.Proofs.Product.Disposal
import RasterMosaic.Proofs.Source.Decoding
import RasterMosaic.Proofs.Mosaic.Failures
import RasterMosaic.Proofs.Raster.Exclusion
import RasterMosaic.Proofs.Pyramid.TileSize
import RasterMosaic.Proofs.Geocoding.Position
import RasterMosaic.Proofs.Geocoding.Corners
import RasterMosaic.Proofs.Product.Building
import RasterMosaic.Proofs.Product.ModelSpace
import RasterMosaic.Proofs.Scalar.Division
import RasterMosaic.Proofs.Scalar.Rounding
import RasterMosaic.Proofs.Raster.Windows
import RasterMosaic.Proofs.Product.Georeference
import RasterMosaic.Proofs.Product.Provenance
import RasterMosaic.Proofs.Product.PhysicalImage
import RasterMosaic.Proofs.Raster.Means
import RasterMosaic.Proofs.Source.Levels
import RasterMosaic.Proofs.Mosaic.Tiles
import RasterMosaic.Proofs.Pyramid.Halving
import RasterMosaic.Proofs.Pyramid.TileSearch
import RasterMosaic.Proofs.Raster.Extension
import RasterMosaic.Proofs.Raster.Painting
import RasterMosaic.Proofs.Geocoding.Cell
import RasterMosaic.Proofs.Geocoding.TieGrid
import RasterMosaic.Proofs.Geocoding.ShortArc
import RasterMosaic.Proofs.Geocoding.NewtonSearch
import RasterMosaic.Proofs.Geocoding.MapGeocoding
import RasterMosaic.Proofs.Crs.Code
import RasterMosaic.Proofs.Geocoding.WholeTurns
import RasterMosaic.Proofs.Rectangle
import RasterMosaic.Proofs.Source.DeepLevels
import RasterMosaic.Proofs.Config.Saving
